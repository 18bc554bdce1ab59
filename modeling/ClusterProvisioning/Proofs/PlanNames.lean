import ClusterProvisioning.Proofs.JsonPaths
import ClusterProvisioning.Proofs.NameLabels

/-!
# The names in a plan

Units are named after the label of the owner or of the name of a request, sessions with a suffix
behind it. A label leaves room for every suffix, so whatever is asked for, all units and the labels
that name the workload and its owner have names that the cluster accepts (`names_valid`).
-/

namespace ClusterProvisioning.Proofs
open Plan

/-- The form of names that the cluster accepts, that of RFC 1123. -/
structure NameForm (name : String) : Prop where
  length : 1 ≤ name.length ∧ name.length ≤ 63
  chars : ∀ c ∈ name.toList, NameChar c
  first : name.toList.head? ≠ some '-'
  last : name.toList.getLast? ≠ some '-'

/-- Suffixes of sessions as they are drawn: five hexadecimal digits. -/
def DrawnSuffix (suffix : String) : Prop :=
  suffix.length = 5 ∧ ∀ c ∈ suffix.toList, c.isDigit ∨ 'a' ≤ c ∧ c ≤ 'f'

instance (suffix : String) : Decidable (DrawnSuffix suffix) :=
  @instDecidableAnd _ _ inferInstance (List.decidableBAll _ suffix.toList)

/-- The places of the maps of labels in the manifest of a unit: those of the object, those that it
selects, and those of its pods. -/
def labelPlaces (kind : Kind) : List (List String) :=
  if kind = .service then [labelsPath, selectorPath]
  else if kind = .deployment then
    [labelsPath, selectorPath ++ ["matchLabels"], ["spec", "template"] ++ labelsPath]
  else if kind = .pyTorchJob then
    [labelsPath, ["spec", "pytorchReplicaSpecs", "Master", "template"] ++ labelsPath,
      ["spec", "pytorchReplicaSpecs", "Worker", "template"] ++ labelsPath]
  else [labelsPath]

/-- The plan of the request sets the label of the owner. -/
def SetsUser (request : WorkloadRequest) : Prop :=
  request.kind = .session ∨ request.kind = .trainingJob ∧ Text.isFilled request.owner = true

/-- The cluster accepts the name of the unit, and the names of the workload and of its owner in each
map of labels. -/
structure WellNamed (request : WorkloadRequest) (u : PlanUnit) : Prop where
  name : NameForm u.name
  app : ∀ place ∈ labelPlaces u.kind, ∃ app,
    u.manifest.at? (place ++ ["app"]) = some (.string app) ∧ NameForm app
  user : SetsUser request → ∀ place ∈ labelPlaces u.kind, ∃ user,
    u.manifest.at? (place ++ ["user"]) = some (.string user) ∧
      Text.label? request.owner = some user ∧ NameForm user

/-! ### Names -/

/-- A label and what follows it make up a name. -/
theorem nameForm_append {label tail : List Char} {name : String} (form : LabelForm label)
    (chars : ∀ c ∈ tail, NameChar c) (last : tail.getLast? ≠ some '-') (short : tail.length ≤ 11)
    (hname : name.toList = label ++ tail) : NameForm name where
  length := by
    have hlength : name.length = label.length + tail.length := by
      rw [← String.length_toList, hname, List.length_append]
    have := form.length
    omega
  chars := by
    rw [hname]
    exact List.forall_mem_append.mpr ⟨form.chars, chars⟩
  first := by
    rw [hname, List.head?_append_of_ne_nil _ (List.length_pos_iff.mp form.length.1)]
    exact form.first
  last := by
    rw [hname, List.getLast?_append]
    cases h : tail.getLast? with
    | none => exact form.last
    | some c => exact fun heq => last (h.trans heq)

theorem nameForm_of_label {raw label : String} (h : Text.label? raw = some label) :
    NameForm label := by
  have hname : label.toList = label.toList ++ [] := (List.append_nil _).symm
  exact nameForm_append (labelForm_of_label h) (by simp) (by simp) (by simp) hname

theorem isLabelChar_of_drawn {suffix : String} (drawn : DrawnSuffix suffix) :
    ∀ c ∈ suffix.toList, Text.isLabelChar c = true := by
  intro c hc
  rw [Text.isLabelChar, Bool.or_eq_true, Bool.and_eq_true, decide_eq_true_eq, decide_eq_true_eq]
  rcases drawn.2 c hc with digit | ⟨first, last⟩
  · exact .inr digit
  · have hz : 'f' ≤ 'z' := by decide
    exact .inl ⟨first, Char.le_trans last hz⟩

/-- A session and its service are named with the label of the owner in front. -/
theorem nameForm_session {raw owner suffix : String} (h : Text.label? raw = some owner)
    (drawn : DrawnSuffix suffix) :
    let name := s!"{owner}-{suffix}"
    NameForm name ∧ NameForm s!"{name}-svc" := by
  intro name
  have form := labelForm_of_label h
  have hsuffix := isLabelChar_of_drawn drawn
  have hchars : ∀ c ∈ '-' :: suffix.toList, NameChar c :=
    List.forall_mem_cons.mpr ⟨.inr rfl, fun c hc => .inl (hsuffix c hc)⟩
  have hlength : suffix.toList.length = 5 := String.length_toList.trans drawn.1
  have hname : name.toList = owner.toList ++ '-' :: suffix.toList := by
    simp only [name, String.toList_append, List.append_assoc]
    rfl
  constructor
  · refine nameForm_append form hchars ?_ ?_ hname
    · intro hlast
      have hne : suffix.toList ≠ [] := List.ne_nil_of_length_eq_add_one hlength
      rw [List.getLast?_cons, List.getLast?_eq_some_getLast hne] at hlast
      have hhyphen : suffix.toList.getLast hne = '-' := Option.some.inj hlast
      have htaken := hsuffix _ (List.getLast_mem hne)
      rw [hhyphen, isLabelChar_hyphen] at htaken
      exact Bool.false_ne_true htaken
    · rw [List.length_cons, hlength]
      omega
  · have hservice : s!"{name}-svc".toList =
        owner.toList ++ ('-' :: suffix.toList ++ "-svc".toList) := by
      rw [← List.append_assoc, ← hname]
      exact String.toList_append
    have hlast : "-svc".toList.getLast? = some 'c' := by decide
    refine nameForm_append form (List.forall_mem_append.mpr ⟨hchars, ?_⟩) ?_ ?_ hservice
    · have letters : "-svc".toList = ['-', 's', 'v', 'c'] := rfl
      simp [letters, NameChar, Text.isLabelChar]
    · rw [List.getLast?_append, hlast]
      exact fun heq => absurd (Option.some.inj heq) (by decide)
    · rw [List.length_append, List.length_cons, hlength]
      decide

/-! ### Units -/

variable {config : Config} {request : WorkloadRequest} {suffix : String} {plan : Plan}

/-- A unit is well named if one map of labels with the name of the workload and that of the owner
stands in all places. -/
theorem wellNamed_of_labels {u : PlanUnit} {labels : Table String} {app : String}
    (name : NameForm u.name)
    (placed : ∀ place ∈ labelPlaces u.kind, u.manifest.at? place = some (.ofTexts labels))
    (happ : labels.get? "app" = some app) (accepted : NameForm app)
    (huser : SetsUser request → ∃ user, Text.label? request.owner = some user ∧
      labels.get? "user" = some user) : WellNamed request u where
  name := name
  app := by
    intro place hplace
    refine ⟨app, ?_, accepted⟩
    rw [at?_append, placed place hplace, Option.bind_some, at?_ofTexts, happ]
    rfl
  user := by
    intro sets place hplace
    obtain ⟨user, howner, hlabel⟩ := huser sets
    refine ⟨user, ?_, howner, nameForm_of_label howner⟩
    rw [at?_append, placed place hplace, Option.bind_some, at?_ofTexts, hlabel]
    rfl

theorem wellNamed_session (kind : request.kind = .session) (drawn : DrawnSuffix suffix)
    (built : Plan.build config request suffix = .ok plan) :
    ∀ u ∈ plan.units, WellNamed request u := by
  obtain ⟨image, resources, owner, -, howner, -, rfl⟩ := sessionPlan_assemble kind built
  obtain ⟨hname, hservice⟩ := nameForm_session howner drawn
  obtain ⟨happ, -, huser⟩ := identity_labels request owner suffix
    (resolveNamespace request config.session.ns) (Session.port config.session request)
  have named : ∀ {u : PlanUnit}, NameForm u.name → (∀ place ∈ labelPlaces u.kind,
      u.manifest.at? place = some (.ofTexts _)) → WellNamed request u := fun name placed =>
    wellNamed_of_labels name placed happ hname fun _ => ⟨owner, howner, huser⟩
  intro u hu
  simp only [Session.assemble, List.mem_cons, List.not_mem_nil, or_false] at hu
  rcases hu with rfl | rfl | rfl
  · exact named hname (List.forall_mem_singleton.mpr rfl)
  · exact named hservice (List.forall_mem_cons.mpr ⟨rfl, List.forall_mem_singleton.mpr rfl⟩)
  · exact named hname (List.forall_mem_singleton.mpr rfl)

theorem wellNamed_serving (kind : request.kind = .servingDeployment)
    (built : Plan.build config request suffix = .ok plan) :
    ∀ u ∈ plan.units, WellNamed request u := by
  have hbuilt := mapError_ok.mp built
  rw [kind] at hbuilt
  obtain ⟨image, resources, name, -, -, hlabel, rfl⟩ := serving_build_ok.mp hbuilt
  have hname := nameForm_of_label (labelOf_ok.mp hlabel)
  have happ : (request.labels.insert "app" name).get? "app" = some name :=
    Table.get?_insert_self _ _ _
  have unset : ¬SetsUser request := by
    rintro (h | ⟨h, -⟩) <;> cases kind.symm.trans h
  intro u hu
  simp only [List.mem_cons, List.not_mem_nil, or_false] at hu
  rcases hu with rfl | rfl
  · refine wellNamed_of_labels hname ?_ happ hname fun h => absurd h unset
    exact List.forall_mem_cons.mpr ⟨rfl, List.forall_mem_cons.mpr ⟨rfl,
      List.forall_mem_singleton.mpr rfl⟩⟩
  · refine wellNamed_of_labels hname ?_ happ hname fun h => absurd h unset
    exact List.forall_mem_cons.mpr ⟨rfl, List.forall_mem_singleton.mpr rfl⟩

/-- The labels of a training job name it, and its owner if there is one. -/
theorem trainingLabels_ok {name : String} {labels : Table String}
    (h : Training.labels request name = .ok labels) :
    labels.get? "app" = some name ∧ (Text.isFilled request.owner = true →
      ∃ user, Text.label? request.owner = some user ∧ labels.get? "user" = some user) := by
  unfold Training.labels at h
  dsimp only at h
  split at h
  next filled =>
    obtain ⟨user, huser, hlabels⟩ := outcome_bind_ok.mp h
    cases hlabels
    refine ⟨?_, fun _ => ⟨user, labelOf_ok.mp huser, Table.get?_insert_self _ _ _⟩⟩
    rw [Table.get?_insert_of_ne _ _ (by decide)]
    exact Table.get?_insert_self _ _ _
  next blank =>
    cases h
    exact ⟨Table.get?_insert_self _ _ _, fun filled => absurd filled blank⟩

theorem wellNamed_training (kind : request.kind = .trainingJob)
    (built : Plan.build config request suffix = .ok plan) :
    ∀ u ∈ plan.units, WellNamed request u := by
  have hbuilt := mapError_ok.mp built
  rw [kind] at hbuilt
  obtain ⟨image, resources, name, labels, -, -, hlabel, hlabels, rfl⟩ :=
    training_build_ok.mp hbuilt
  have hname := nameForm_of_label (labelOf_ok.mp hlabel)
  obtain ⟨happ, huser⟩ := trainingLabels_ok hlabels
  have filled : SetsUser request → Text.isFilled request.owner = true := by
    rintro (h | ⟨-, h⟩)
    · cases kind.symm.trans h
    · exact h
  intro u hu
  obtain rfl := List.mem_singleton.mp hu
  refine wellNamed_of_labels hname ?_ happ hname fun h => huser (filled h)
  exact List.forall_mem_cons.mpr ⟨rfl, List.forall_mem_cons.mpr ⟨rfl,
    List.forall_mem_singleton.mpr rfl⟩⟩

/-- Whatever text a label is asked for, it is refused exactly if no character of its lower-case form
can stand in a label; else the label has the form of labels and is its own label. So the names that
a plan gives to its units, to the workload and to its owner are accepted by the cluster. -/
theorem names_valid :
    (∀ field raw : String,
      (∀ lower, LowerCase lower → ∀ report, labelOf field raw = .error report ↔
        report = .of (.validation (.unusableName field raw)) ∧
          ∀ c ∈ (Text.trimChars raw.toList).flatMap lower, Text.isLabelChar c = false) ∧
      ∀ label, labelOf field raw = .ok label →
        LabelForm label.toList ∧ labelOf field label = .ok label) ∧
    ∀ (config : Config) (request : WorkloadRequest) (suffix : String) (plan : Plan),
      DrawnSuffix suffix → Plan.build config request suffix = .ok plan →
      ∀ u ∈ plan.units, WellNamed request u := by
  refine ⟨fun field raw => ⟨fun lower hlower report => ?_, fun label h => ?_⟩, ?_⟩
  · rw [refused_of_lowerCase hlower, ← label?_none, labelOf]
    cases Text.label? raw with
    | none => simp [eq_comm]
    | some label => simp
  · have form := labelForm_of_label (labelOf_ok.mp h)
    exact ⟨form, labelOf_ok.mpr (label_of_form form)⟩
  · intro config request suffix plan drawn built
    cases kind : request.kind with
    | session => exact wellNamed_session kind drawn built
    | servingDeployment => exact wellNamed_serving kind built
    | trainingJob => exact wellNamed_training kind built

/-- A session of an owner whose label is cut where it has a hyphen. -/
def longOwnerRequest : WorkloadRequest :=
  { claimingRequest with
    owner := "Ada King, Countess of Lovelace: Analytic Engineer (The London)" }

theorem names_valid_long_owner :
    LowerCase Text.lowerChar ∧
      labelOf "name" "!?" = .error (.of (.validation (.unusableName "name" "!?"))) ∧
      DrawnSuffix "1a2b3" ∧ ∃ plan, Plan.build .standard longOwnerRequest "1a2b3" = .ok plan ∧
        ∀ u ∈ plan.units, WellNamed longOwnerRequest u := by
  have lower : LowerCase Text.lowerChar := fun c => .inl rfl
  have marks : ((Text.trimChars "!?".toList).flatMap Text.lowerChar).all
      (fun c => !Text.isLabelChar c) = true := by decide
  have refused := ((names_valid.1 "name" "!?").1 Text.lowerChar lower _).mpr
    ⟨rfl, fun c hc => (Bool.not_eq_true' _).mp (List.all_eq_true.mp marks c hc)⟩
  have drawn : DrawnSuffix "1a2b3" := by decide
  have builds : (Plan.build .standard longOwnerRequest "1a2b3").isOk = true := by decide +kernel
  obtain ⟨plan, built⟩ := exists_of_isOk builds
  have names := names_valid.2 .standard longOwnerRequest "1a2b3" plan drawn built
  exact ⟨lower, refused, drawn, plan, built, names⟩

example : Text.label? longOwnerRequest.owner =
    some "ada-king-countess-of-lovelace-analytic-engineer-the" := by
  decide +kernel

end ClusterProvisioning.Proofs
