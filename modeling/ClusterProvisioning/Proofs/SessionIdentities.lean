import ClusterProvisioning.Proofs.SessionWiring
import ClusterProvisioning.Proofs.TeardownCourse

/-!
# The identities of sessions

The objects of a session are named after the label of its owner and a suffix, with a hyphen between
them. Labels have hyphens too, but a suffix without one is what follows the last hyphen, so a name
gives both back (`sessionName_injective`). Two sessions therefore have all their objects in common
or none (`sessions_collide`).
-/

namespace ClusterProvisioning.Proofs
open Plan

/-- The objects of the session of an owner. -/
def sessionRefs (ns owner suffix : String) : List Ref :=
  let name := s!"{owner}-{suffix}"
  [⟨.pod, ns, name⟩, ⟨.service, ns, s!"{name}-svc"⟩, ⟨.virtualService, ns, name⟩]

/-- Some object stands in both plans. -/
def Collide (plan plan' : Plan) : Prop :=
  ∃ target ∈ plan.refs, target ∈ plan'.refs

/-! ### Names -/

theorem sessionName_injective {owner other suffix ending : String}
    (plain : '-' ∉ suffix.toList) (plain' : '-' ∉ ending.toList)
    (h : s!"{owner}-{suffix}" = s!"{other}-{ending}") : owner = other ∧ suffix = ending := by
  have hsuffix : suffix = ending := by
    have hlast := nameSuffix?_hyphen owner suffix plain
    rw [h, nameSuffix?_hyphen other ending plain'] at hlast
    exact (Option.some.inj hlast).symm
  subst hsuffix
  have hchars := congrArg String.toList h
  simp only [String.toList_append, List.append_left_inj] at hchars
  exact ⟨String.toList_injective hchars, rfl⟩

theorem serviceName_injective {name other : String} (h : s!"{name}-svc" = s!"{other}-svc") :
    name = other := by
  have hchars := congrArg String.toList h
  simp only [String.toList_append, List.append_left_inj] at hchars
  exact String.toList_injective hchars

/-- Sessions that have an object in common have namespace, owner and suffix in common. The three
objects of a session differ in their kinds, so a common object has the same role in both. -/
theorem sessionRefs_apart {ns ns' owner other suffix ending : String} {target : Ref}
    (plain : '-' ∉ suffix.toList) (plain' : '-' ∉ ending.toList)
    (h : target ∈ sessionRefs ns owner suffix) (h' : target ∈ sessionRefs ns' other ending) :
    ns = ns' ∧ owner = other ∧ suffix = ending := by
  have apart : Kind.pod ≠ .service ∧ Kind.pod ≠ .virtualService ∧
      Kind.service ≠ .virtualService := by decide
  have hname : ns = ns' ∧ s!"{owner}-{suffix}" = s!"{other}-{ending}" := by
    simp only [sessionRefs, List.mem_cons, List.not_mem_nil, or_false] at h h'
    rcases h with rfl | rfl | rfl
    · rcases h' with h' | h' | h'
      · exact ⟨congrArg Ref.ns h', congrArg Ref.name h'⟩
      · exact absurd (congrArg Ref.kind h') apart.1
      · exact absurd (congrArg Ref.kind h') apart.2.1
    · rcases h' with h' | h' | h'
      · exact absurd (congrArg Ref.kind h').symm apart.1
      · exact ⟨congrArg Ref.ns h', serviceName_injective (congrArg Ref.name h')⟩
      · exact absurd (congrArg Ref.kind h') apart.2.2
    · rcases h' with h' | h' | h'
      · exact absurd (congrArg Ref.kind h').symm apart.2.1
      · exact absurd (congrArg Ref.kind h').symm apart.2.2
      · exact ⟨congrArg Ref.ns h', congrArg Ref.name h'⟩
  exact ⟨hname.1, sessionName_injective plain plain' hname.2⟩

/-! ### Plans -/

theorem refs_of_session {config : Config} {request : WorkloadRequest} {suffix : String}
    {plan : Plan} (kind : request.kind = .session)
    (built : Plan.build config request suffix = .ok plan) :
    ∃ owner, Text.label? request.owner = some owner ∧
      plan.refs = sessionRefs (resolveNamespace request config.session.ns) owner suffix := by
  obtain ⟨image, resources, owner, -, howner, -, rfl⟩ := sessionPlan_assemble kind built
  exact ⟨owner, howner, rfl⟩

/-- Two sessions that are built with suffixes without a hyphen have an object in common exactly when
they agree in namespace, label of the owner and suffix, and then they have all three objects in
common. -/
theorem sessions_collide (config config' : Config) (request request' : WorkloadRequest)
    (suffix suffix' : String) (plan plan' : Plan) (kind : request.kind = .session)
    (kind' : request'.kind = .session) (plain : '-' ∉ suffix.toList)
    (plain' : '-' ∉ suffix'.toList) (built : Plan.build config request suffix = .ok plan)
    (built' : Plan.build config' request' suffix' = .ok plan') :
    (Collide plan plan' ↔
      resolveNamespace request config.session.ns = resolveNamespace request' config'.session.ns ∧
        Text.label? request.owner = Text.label? request'.owner ∧ suffix = suffix') ∧
      (Collide plan plan' → plan.refs = plan'.refs ∧ plan.refs.Nodup ∧ plan.refs.length = 3) := by
  obtain ⟨owner, howner, hrefs⟩ := refs_of_session kind built
  obtain ⟨owner', howner', hrefs'⟩ := refs_of_session kind' built'
  have agree : Collide plan plan' →
      resolveNamespace request config.session.ns = resolveNamespace request' config'.session.ns ∧
        owner = owner' ∧ suffix = suffix' := by
    rintro ⟨target, hmem, hmem'⟩
    rw [hrefs] at hmem
    rw [hrefs'] at hmem'
    exact sessionRefs_apart plain plain' hmem hmem'
  refine ⟨⟨fun collide => ?_, ?_⟩, fun collide => ?_⟩
  · obtain ⟨hns, rfl, hsuffix⟩ := agree collide
    exact ⟨hns, howner.trans howner'.symm, hsuffix⟩
  · rintro ⟨hns, hlabel, rfl⟩
    obtain rfl : owner = owner' := Option.some.inj (howner.symm.trans (hlabel.trans howner'))
    have hsame : plan'.refs = plan.refs := by rw [hrefs, hrefs', hns]
    have hpod : ⟨.pod, resolveNamespace request config.session.ns, s!"{owner}-{suffix}"⟩ ∈
        plan.refs := by
      rw [hrefs]
      exact List.mem_cons_self
    exact ⟨_, hpod, hsame ▸ hpod⟩
  · obtain ⟨hns, rfl, rfl⟩ := agree collide
    refine ⟨by rw [hrefs, hrefs', hns], ?_, by rw [hrefs]; rfl⟩
    exact (planForm_of_build built).distinct

/-- A session of an owner who is written differently, in the namespace that is configured. -/
def namesakeRequest : WorkloadRequest :=
  { claimingRequest with owner := "--ada.LOVELACE", ns := "jupyter", labels := [] }

/-- Owners with the same label and suffix share their session. -/
theorem sessions_collide_namesake :
    ∃ plan plan', claimingRequest.kind = .session ∧ namesakeRequest.kind = .session ∧
      '-' ∉ "1a2b3".toList ∧ Plan.build .standard claimingRequest "1a2b3" = .ok plan ∧
      Plan.build .standard namesakeRequest "1a2b3" = .ok plan' ∧ Collide plan plan' ∧
      plan.refs = plan'.refs := by
  obtain ⟨plan, built⟩ := claimingRequest_builds
  have builds : (Plan.build .standard namesakeRequest "1a2b3").isOk = true := by decide +kernel
  obtain ⟨plan', built'⟩ := exists_of_isOk builds
  have plain : '-' ∉ "1a2b3".toList := by decide
  have h := sessions_collide .standard .standard claimingRequest namesakeRequest "1a2b3" "1a2b3"
    plan plan' rfl rfl plain plain built built'
  have label : Text.label? claimingRequest.owner = Text.label? namesakeRequest.owner := by
    decide +kernel
  have ns : resolveNamespace claimingRequest Config.standard.session.ns =
      resolveNamespace namesakeRequest Config.standard.session.ns := by
    decide +kernel
  have collide := h.1.mpr ⟨ns, label, rfl⟩
  exact ⟨plan, plan', rfl, rfl, plain, built, built', collide, (h.2 collide).1⟩

end ClusterProvisioning.Proofs
