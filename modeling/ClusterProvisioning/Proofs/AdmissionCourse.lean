import ClusterProvisioning.Admission
import ClusterProvisioning.Proofs.ProgramTrace

/-!
# The course of an admission check

Whatever a gateway answers, a check lists the nodes and looks at them in order. It passes over
those without room and ends at the first that has room or whose pods cannot be listed. Pods are
listed only for nodes whose capacity covers the request.
-/

namespace ClusterProvisioning.Proofs
open Program

/-- The events in which nodes are looked at in order and none has room. -/
inductive NodesPassed (request : Resources) : List NodeView → List Event → Prop
  | nil : NodesPassed request [] []
  | small {node : NodeView} {nodes : List NodeView} {events : List Event}
      (short : node.allocatable.fits request = false) (rest : NodesPassed request nodes events) :
      NodesPassed request (node :: nodes) events
  | full {node : NodeView} {nodes : List NodeView} {events : List Event}
      {pods : List PodFootprint} (ample : node.allocatable.fits request = true)
      (taken : (Admission.headroom node pods).fits request = false)
      (rest : NodesPassed request nodes events) :
      NodesPassed request (node :: nodes) (.call (.listPods node.name) (.ok pods) :: events)

/-- How looking at nodes ends, given those that are left, and the answer. -/
inductive Decision (request : Resources) : List NodeView → List Event → Outcome Bool → Prop
  | denied : Decision request [] [] (.ok false)
  | admitted {node : NodeView} {nodes : List NodeView} {pods : List PodFootprint}
      (ample : node.allocatable.fits request = true)
      (room : (Admission.headroom node pods).fits request = true) :
      Decision request (node :: nodes) [.call (.listPods node.name) (.ok pods)] (.ok true)
  | unlisted {node : NodeView} {nodes : List NodeView} {report : Report GatewayError}
      (ample : node.allocatable.fits request = true) :
      Decision request (node :: nodes) [.call (.listPods node.name) (.error report)]
        (.error (.above (.transport (.listPods node.name)) report))

/-- What looking at nodes can do, and the answer. -/
def Survey (request : Resources) (nodes : List NodeView) (events : List Event)
    (a : Outcome Bool) : Prop :=
  ∃ passed rest looked decisive, nodes = passed ++ rest ∧ events = looked ++ decisive ∧
    NodesPassed request passed looked ∧ Decision request rest decisive a

theorem traces_nodeFits {request : Resources} {node : NodeView} {events : List Event}
    {a : Outcome Bool} (h : Traces (Admission.nodeFits request node) events a) :
    (a = .ok false ∧ NodesPassed request [node] events) ∨
      (a ≠ .ok false ∧ Decision request [node] events a) := by
  unfold Admission.nodeFits at h
  split at h
  next ample =>
    obtain ⟨result, rest, rfl, hrest⟩ := (traces_perform_bind _ _ _ _).mp h
    cases result with
    | error report =>
      obtain ⟨rfl, rfl⟩ := hrest
      exact .inr ⟨by simp, .unlisted ample⟩
    | ok pods =>
      obtain ⟨rfl, rfl⟩ := hrest
      cases room : (Admission.headroom node pods).fits request with
      | false => exact .inl ⟨rfl, .full ample room .nil⟩
      | true => exact .inr ⟨by simp, .admitted ample room⟩
  next short =>
    obtain ⟨rfl, rfl⟩ := h
    exact .inl ⟨rfl, .small (eq_false_of_ne_true short) .nil⟩

theorem nodesPassed_append {request : Resources} {nodes others : List NodeView}
    {first second : List Event} (hnodes : NodesPassed request nodes first)
    (hothers : NodesPassed request others second) :
    NodesPassed request (nodes ++ others) (first ++ second) := by
  induction hnodes with
  | nil => exact hothers
  | small short rest ih => exact .small short ih
  | full ample taken rest ih => exact .full ample taken ih

theorem decision_mono {request : Resources} {node : NodeView} {nodes : List NodeView}
    {events : List Event} {a : Outcome Bool} (h : Decision request [node] events a) :
    Decision request (node :: nodes) events a := by
  cases h with
  | admitted ample room => exact .admitted ample room
  | unlisted ample => exact .unlisted ample

theorem survey_of_anyFits {request : Resources} {nodes : List NodeView} {events : List Event}
    {a : Outcome Bool} (h : Traces (Admission.anyFits request nodes) events a) :
    Survey request nodes events a := by
  induction nodes generalizing events with
  | nil =>
    obtain ⟨rfl, rfl⟩ := h
    exact ⟨[], [], [], [], rfl, rfl, .nil, .denied⟩
  | cons node nodes ih =>
    obtain ⟨fits, first, second, rfl, hnode, hrest⟩ := (traces_bind _ _ _ _).mp h
    rcases traces_nodeFits hnode with ⟨rfl, passed⟩ | ⟨decided, decision⟩
    · obtain ⟨others, rest, looked, decisive, rfl, rfl, hothers, hdecision⟩ := ih hrest
      refine ⟨node :: others, rest, first ++ looked, decisive, rfl, ?_, ?_, hdecision⟩
      · rw [List.append_assoc]
      · exact nodesPassed_append passed hothers
    · have hend : second = [] ∧ a = fits := by
        cases fits with
        | error report => exact hrest
        | ok fits =>
          cases fits with
          | false => exact absurd rfl decided
          | true => exact hrest
      obtain ⟨rfl, rfl⟩ := hend
      refine ⟨[], node :: nodes, [], first, rfl, ?_, .nil, decision_mono decision⟩
      rw [List.append_nil, List.nil_append]

/-- A check fails because the nodes cannot be listed, or it looks at them in order. -/
theorem traces_check {request : Resources} {events : List Event} {a : Outcome Bool}
    (h : Traces (Admission.check request) events a) :
    (∃ report, events = [.call .listNodes (.error report)] ∧
        a = .error (.above (.transport .listNodes) report)) ∨
      ∃ nodes rest, events = .call .listNodes (.ok nodes) :: rest ∧
        Survey request nodes rest a := by
  obtain ⟨result, rest, rfl, hrest⟩ := (traces_perform_bind _ _ _ _).mp h
  cases result with
  | error report =>
    obtain ⟨rfl, rfl⟩ := hrest
    exact .inl ⟨report, rfl, rfl⟩
  | ok nodes => exact .inr ⟨nodes, rest, rfl, survey_of_anyFits hrest⟩

/-! ### What a check never does -/

theorem nodesPassed_lists {request : Resources} {nodes : List NodeView} {events : List Event}
    (passed : NodesPassed request nodes events) : ∀ call ∈ callTrail events, Lists call := by
  induction passed with
  | nil => exact fun call hcall => absurd hcall List.not_mem_nil
  | small short rest ih => exact ih
  | full ample taken rest ih =>
    intro call hcall
    rcases List.mem_cons.mp hcall with rfl | hcall
    · trivial
    · exact ih call hcall

theorem decision_lists {request : Resources} {nodes : List NodeView} {events : List Event}
    {a : Outcome Bool} (decision : Decision request nodes events a) :
    ∀ call ∈ callTrail events, Lists call := by
  intro call hcall
  cases decision with
  | denied => cases hcall
  | admitted ample room =>
    obtain rfl := List.mem_singleton.mp hcall
    trivial
  | unlisted ample =>
    obtain rfl := List.mem_singleton.mp hcall
    trivial

/-- A check changes nothing: it only lists nodes and pods. -/
theorem check_lists {request : Resources} {events : List Event} {a : Outcome Bool}
    (h : Traces (Admission.check request) events a) : ∀ call ∈ callTrail events, Lists call := by
  intro call hcall
  rcases traces_check h with ⟨report, rfl, -⟩ | ⟨nodes, rest, rfl, survey⟩
  · obtain rfl := List.mem_singleton.mp hcall
    trivial
  · obtain ⟨passed, left, looked, decisive, -, rfl, hpassed, hdecision⟩ := survey
    rcases List.mem_cons.mp hcall with rfl | hcall
    · trivial
    · change call ∈ callTrail (looked ++ decisive) at hcall
      rw [callTrail_append, List.mem_append] at hcall
      exact hcall.elim (nodesPassed_lists hpassed call) (decision_lists hdecision call)

/-- A check that fails says which listing failed. -/
theorem check_error {request : Resources} {events : List Event}
    {report : Report ProvisionError}
    (h : Traces (Admission.check request) events (.error report)) :
    ∃ step, report.cause = .transport step := by
  rcases traces_check h with ⟨listing, -, hreport⟩ | ⟨nodes, rest, -, survey⟩
  · cases hreport
    exact ⟨_, rfl⟩
  · obtain ⟨passed, left, looked, decisive, -, -, -, hdecision⟩ := survey
    cases hdecision
    exact ⟨_, rfl⟩

end ClusterProvisioning.Proofs
