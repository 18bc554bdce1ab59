import ClusterProvisioning.Proofs.EditEffects
import ClusterProvisioning.Proofs.PlanContainers
import ClusterProvisioning.Proofs.ProvisionGate
import ClusterProvisioning.Proofs.SessionShape

/-!
# Updates that are refused

An update that does not fit the units, or asks for what cannot be read, is refused before any call.
One check is left for the live pod, and it comes before the first change: whoever is told of a
refusal finds the objects as they were (`update_refused`).
-/

namespace ClusterProvisioning.Proofs
open Program MemoryCluster SessionUpdate

variable {units : List Ref} {u : SessionUpdate} {refusal : Refusal}

/-- What is wrong with an update of some units, whatever the cluster holds. -/
inductive Unfit (units : List Ref) (u : SessionUpdate) : Refusal → Prop
  | pod (asked : u.touchesResources = true) (missing : ∀ unit ∈ units, unit.kind ≠ .pod) :
      Unfit units u .noSessionPod
  | cpu {text : String} (asked : u.cpu = some text)
      (unreadable : ∀ n, Quantity.cpuMillis text ≠ .ok n) : Unfit units u (.invalidCpu text)
  | memory {text : String} (asked : u.memory = some text)
      (unreadable : ∀ n, Quantity.memoryBytes text ≠ .ok n) : Unfit units u (.invalidMemory text)
  | port (asked : u.servicePort = some 0) : Unfit units u .servicePortZero
  | service (asked : u.servicePort ≠ none) (missing : ∀ unit ∈ units, unit.kind ≠ .service) :
      Unfit units u .noSessionService

/-- The pod has no first container, or none that could hold resources. -/
def Bare (pod : Json) : Prop :=
  ∀ members, pod.at? containerPath ≠ some (.object members)

/-! ### Checks before any call -/

theorem unitOf?_none {kind : Kind} (h : unitOf? units kind = none) :
    ∀ unit ∈ units, unit.kind ≠ kind := by
  intro unit hunit hkind
  have := List.find?_eq_none.mp h unit hunit
  exact this (decide_eq_true hkind)

theorem amounts_unfit {report : Report ProvisionError}
    (refused : u.amountChanges = .error report) :
    ∃ refusal, report.cause = .validation refusal ∧ Unfit units u refusal := by
  rcases amountChanges_error refused with ⟨text, asked, h⟩ | ⟨text, asked, h⟩
  · refine ⟨.invalidCpu text, ?_, .cpu asked fun n hn => ?_⟩
    · unfold ContainerResources.requestedCpu at h
      cases hread : Quantity.cpuMillis text with
      | ok n => rw [hread] at h; cases h
      | error e => rw [hread] at h; cases h; rfl
    · cases h.symm.trans (requestedCpu_ok.mpr hn)
  · refine ⟨.invalidMemory text, ?_, .memory asked fun n hn => ?_⟩
    · unfold ContainerResources.requestedMemory at h
      cases hread : Quantity.memoryBytes text with
      | ok n => rw [hread] at h; cases h
      | error e => rw [hread] at h; cases h; rfl
    · cases h.symm.trans (requestedMemory_ok.mpr hn)

/-- An update that is refused without a call is unfit in the way that the refusal says. -/
theorem work_unfit {report : Report ProvisionError} (refused : work units u = .error report) :
    ∃ refusal, report.cause = .validation refusal ∧ Unfit units u refusal := by
  rw [work_eq] at refused
  rcases outcome_bind_error.mp refused with h | ⟨pod, -, h⟩
  · unfold podWork at h
    split at h
    next asked =>
      split at h
      next missing =>
        cases h
        exact ⟨_, rfl, .pod asked (unitOf?_none missing)⟩
      next pod _ =>
        rcases outcome_bind_error.mp h with h | ⟨changes, -, ⟨⟩⟩
        exact amounts_unfit h
    next => cases h
  · rcases outcome_bind_error.mp h with h | ⟨service, -, ⟨⟩⟩
    unfold serviceWork at h
    split at h
    next => cases h
    next port asked =>
      split at h
      next zero =>
        cases h
        exact ⟨_, rfl, .port (zero ▸ asked)⟩
      next =>
        split at h
        next missing =>
          cases h
          exact ⟨_, rfl, .service (asked ▸ Option.some_ne_none port) (unitOf?_none missing)⟩
        next => cases h

/-- An update that is unfit does not get through the checks. -/
theorem unfit_unsettled (unfit : Unfit units u refusal) (w : Work) : work units u ≠ .ok w := by
  intro settled
  cases unfit with
  | pod asked missing =>
    obtain ⟨pod, -, first, -⟩ := work_touches settled asked
    exact missing pod (List.mem_of_find?_eq_some first) (unitOf?_kind first)
  | cpu asked unreadable =>
    obtain ⟨-, changes, -, checked, -⟩ := work_touches settled (by simp [touchesResources, asked])
    obtain ⟨n, hn⟩ := (amountChanges_ok checked).1 _ asked
    exact unreadable n (requestedCpu_ok.mp hn)
  | memory asked unreadable =>
    obtain ⟨-, changes, -, checked, -⟩ := work_touches settled (by simp [touchesResources, asked])
    obtain ⟨n, hn⟩ := (amountChanges_ok checked).2.1 _ asked
    exact unreadable n (requestedMemory_ok.mp hn)
  | port asked => exact (work_port settled asked).1 rfl
  | service asked missing =>
    obtain ⟨port, hport⟩ := Option.ne_none_iff_exists'.mp asked
    obtain ⟨-, service, first, -⟩ := work_port settled hport
    exact missing service (List.mem_of_find?_eq_some first) (unitOf?_kind first)

/-! ### The check of the live pod -/

/-- Only the edit of the pod can find fault with what is there. -/
theorem port_unrefused {gpu : Option UInt64} {w : Work} {edit : Edit} (nopod : w.pod = none)
    (mem : edit ∈ edits units gpu w) (manifest : Json) (report : Report ProvisionError) :
    edit.change manifest ≠ .error (.failed report) := by
  have assigned : ∀ path key value, assignAt path key value manifest ≠ .error (.failed report) := by
    intro path key value h
    unfold assignAt at h
    split at h
    · cases h
    next place _ => cases place <;> cases h
  rcases mem_edits.mp mem with ⟨pod, changes, h, -⟩ | ⟨service, port, -, rfl | ⟨route, -, rfl⟩⟩
  · cases nopod.symm.trans h
  · exact assigned _ _ _
  · exact assigned _ _ _

variable {events : List Event} {report : Report ProvisionError}

/-- A cluster that fails to replace an object does not refuse it. -/
theorem replaceCourse_unrefused {target : Ref} {manifest : Json}
    (course : ReplaceCourse target manifest events (.error report)) :
    report.cause ≠ .validation refusal := by
  cases course with
  | unpatched => exact nofun
  | stuck => exact nofun
  | lost => exact nofun

/-- An edit that is refused only read its target. -/
theorem editCourse_refused {edit : Edit}
    (course : EditCourse edit events (.error (.failed report)))
    (cause : report.cause = .validation refusal) :
    ∃ object, events = [.call (.get edit.target) (.ok object)] ∧
      edit.change (withoutServerFields object) = .error (.failed report) := by
  generalize hanswer : (Except.error (.failed report) : Except UpdateFailure Ref) = answer at course
  cases course with
  | unread =>
    cases hanswer
    cases cause
  | @unchanged object failure refused =>
    cases hanswer
    exact ⟨object, rfl, refused⟩
  | @submitted object manifest rest outcome changed replaced =>
    cases outcome with
    | ok made => cases hanswer
    | error other =>
      cases hanswer
      exact absurd cause (replaceCourse_unrefused replaced)

theorem editsCourse_unrefused {edits : List Edit}
    (course : EditsCourse edits events (.error (.failed report)))
    (unrefused : ∀ edit ∈ edits, ∀ manifest, edit.change manifest ≠ .error (.failed report)) :
    report.cause ≠ .validation refusal := by
  intro cause
  generalize hanswer : (Except.error (.failed report) : Except UpdateFailure (List Ref)) = answer
    at course
  induction course with
  | nil => cases hanswer
  | failed course =>
    cases hanswer
    obtain ⟨object, -, refused⟩ := editCourse_refused course cause
    exact unrefused _ List.mem_cons_self _ refused
  | @cons edit rest first second made answer course others ih =>
    cases answer with
    | ok replaced => cases hanswer
    | error failure => exact ih (List.forall_mem_cons.mp unrefused).2 hanswer

theorem setResources_bare {changes : Table Json} {gpu : Option UInt64} {object : Json}
    (refused : (setResources changes gpu (withoutServerFields object)).mapError
      UpdateFailure.failed = .error (.failed report)) :
    report = .of (.validation .noSessionContainer) ∧ Bare object := by
  have kept : object.at? containerPath = (withoutServerFields object).at? containerPath :=
    (retains_withoutServerFields object _ (.spec (by decide))).symm
  unfold setResources at refused
  split at refused
  · cases refused
  next bare =>
    cases refused
    exact ⟨rfl, fun members h => bare members (kept.symm.trans h)⟩

/-- Edits that are refused ended with the pod, which was read and has no container. -/
theorem editsCourse_refused {gpu : Option UInt64} {w : Work}
    (course : EditsCourse (edits units gpu w) events (.error (.failed report)))
    (cause : report.cause = .validation refusal) :
    ∃ pod changes object, w.pod = some (pod, changes) ∧
      events = [.call (.get pod) (.ok object)] ∧
      report = .of (.validation .noSessionContainer) ∧ Bare object := by
  obtain ⟨pod, service⟩ := w
  have rest : ∀ {events}, ¬EditsCourse (edits units gpu ⟨none, service⟩) events
      (.error (.failed report)) := fun others =>
    editsCourse_unrefused others (fun _ mem manifest => port_unrefused rfl mem manifest report)
      cause
  cases pod with
  | none => exact absurd course rest
  | some work =>
    obtain ⟨pod, changes⟩ := work
    change EditsCourse (podEdit pod changes gpu :: edits units gpu ⟨none, service⟩) events _
      at course
    generalize hanswer : (Except.error (.failed report) : Except UpdateFailure (List Ref)) = answer
      at course
    cases course with
    | failed failed =>
      cases hanswer
      obtain ⟨object, hevents, refused⟩ := editCourse_refused failed cause
      exact ⟨pod, changes, object, rfl, hevents, setResources_bare refused⟩
    | @cons _ _ _ _ _ answer _ others =>
      cases answer with
      | ok replaced => cases hanswer
      | error failure =>
        cases hanswer
        exact absurd others rest

/-! ### Runs of updates -/

/-- An update that is refused changed nothing: the refusal is true of update and units and was given
without a call, or it is true of the pod, which was read and nothing else. One that is unfit is
refused without a call, whatever the pod is. -/
theorem update_refused (units : List Ref) (u : SessionUpdate) (c c' : MemoryCluster)
    (answer : Except UpdateFailure (List Ref)) (events : List Event)
    (run : (u.run units).run gateway c = (answer, c', events)) :
    (∀ (report : Report ProvisionError) (refusal : Refusal), answer = .error (.failed report) →
        report.cause = .validation refusal →
      (∀ call ∈ callTrail events, ¬Changes call) ∧ c'.objects = c.objects ∧
        (Unfit units u refusal ∧ events = [] ∧ c' = c ∨
          refusal = .noSessionContainer ∧ ∃ pod object, unitOf? units .pod = some pod ∧
            c.object? pod = some object ∧ Bare object ∧
            events = [.call (.get pod) (.ok object)])) ∧
      ((∃ refusal, Unfit units u refusal) → ∃ report refusal,
        answer = .error (.failed report) ∧ report.cause = .validation refusal ∧
          Unfit units u refusal ∧ events = [] ∧ c' = c) := by
  obtain ⟨course, served⟩ := course_of_run run
  constructor
  · rintro report refusal hanswer cause
    cases course with
    | idle empty => cases hanswer
    | refused refused =>
      cases hanswer
      obtain rfl := served
      obtain ⟨reason, hreason, unfit⟩ := work_unfit refused
      cases hreason.symm.trans cause
      exact ⟨fun _ hcall => (by cases hcall), rfl, .inl ⟨unfit, rfl, rfl⟩⟩
    | @carried w events answer settled course =>
      subst hanswer
      obtain ⟨pod, changes, object, asked, rfl, rfl, bare⟩ := editsCourse_refused course cause
      cases cause
      obtain ⟨d, hget, rfl⟩ := served
      obtain ⟨present, hobjects⟩ := get_found hget
      have first := (work_first settled).1 pod changes asked
      refine ⟨?_, hobjects, .inr ⟨rfl, pod, object, first, present, bare, rfl⟩⟩
      exact List.forall_mem_singleton.mpr not_false
  · rintro ⟨refusal, unfit⟩
    cases course with
    | idle empty => exact absurd (work_idle empty) (unfit_unsettled unfit _)
    | @refused report refused =>
      obtain rfl := served
      obtain ⟨reason, cause, hreason⟩ := work_unfit refused
      exact ⟨report, reason, rfl, cause, hreason, rfl, rfl⟩
    | carried settled => exact absurd settled (unfit_unsettled unfit _)

/-! ### A pod that is bare -/

/-- A cluster with a pod that has no containers. -/
def bareCluster : MemoryCluster :=
  MemoryCluster.empty.insertObject "lab" .pod (.object [
    ("metadata", .object [("name", .string "ada")]), ("spec", .object [("containers", .array [])])])

/-- A port alone is no matter of the pod, resources are: the update that asks for both is refused
once the pod was read, but before it was if no service is recorded. -/
theorem update_refused_bare_pod :
    let units : List Ref := [⟨.pod, "lab", "ada"⟩, ⟨.service, "lab", "ada"⟩]
    let u : SessionUpdate := ⟨none, none, some 1, some 8888⟩
    (∃ c' events, (u.run units).run gateway bareCluster =
        (.error (.failed (.of (.validation .noSessionContainer))), c', events) ∧
      (∀ call ∈ callTrail events, ¬Changes call) ∧ c'.objects = bareCluster.objects) ∧
    ∃ report refusal, (u.run (units.take 1)).run gateway bareCluster =
        (.error (.failed report), bareCluster, []) ∧
      report.cause = .validation refusal ∧ Unfit (units.take 1) u refusal := by
  intro units u
  constructor
  · refine ⟨_, _, rfl, ?_⟩
    obtain ⟨unchanging, objects, -⟩ :=
      (update_refused units u bareCluster _ _ _ rfl).1 _ .noSessionContainer rfl rfl
    exact ⟨unchanging, objects⟩
  · rcases h : (u.run (units.take 1)).run gateway bareCluster with ⟨answer, c', events⟩
    have unfit : Unfit (units.take 1) u .noSessionService := .service nofun (by decide)
    obtain ⟨report, refusal, rfl, cause, reason, rfl, rfl⟩ :=
      (update_refused (units.take 1) u bareCluster _ _ _ h).2 ⟨_, unfit⟩
    exact ⟨report, refusal, rfl, cause, reason⟩

end ClusterProvisioning.Proofs
