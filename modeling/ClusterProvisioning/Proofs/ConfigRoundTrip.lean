import ClusterProvisioning.Json.Printer
import ClusterProvisioning.Proofs.ConfigFields
import Mathlib.Logic.Relation

/-!
# Configurations that are written and read again

A configuration that a text gives is written as JSON with every field. Whatever text is read as this
JSON value gives the same configuration (`config_roundTrip`): a field that is null is written as
null, and does not fall back to its default. Nor do other fields change when entries that are no
fields are added, or when fields are left out; those fall back to their defaults.
-/

namespace ClusterProvisioning.Proofs
open Document

variable {α : Type}

/-! ### Reading what was written -/

theorem serviceType_reads_back (type : ServiceType) :
    ReadsAs ServiceType.ofDocument? (.string (toString type)) type := by
  intro d h
  rw [ServiceType.ofDocument?, variant_reads _ d h]
  cases type <;> rfl

theorem session_reads_back (c : SessionConfig) (sorted : Table.Sorted c.nodeSelector) :
    ReadsAs SessionConfig.ofDocument? c.toJson c := by
  intro d h
  obtain ⟨fields, hfields, written⟩ := fields_written ["namespace", "image", "cpu", "memory",
    "servicePort", "serviceType", "workspaceClaim", "workspaceRoot", "archiveClaim", "archiveRoot",
    "routeGateway", "routeHost", "routeTimeout", "externalAddress", "nodeSelector",
    "schedulerName", "imagePullSecret", "rollbackOnRouteFailure"] (by simp) (by simp) h
  have rollback := truth_reads c.rollbackOnRouteFailure
  refine bind_read hfields ?_
  refine written.withDefault "namespace" (by simp) (text_reads c.ns) ?_
  refine written.withDefault "image" (by simp) (nullableText_reads c.image) ?_
  refine written.withDefault "cpu" (by simp) (text_reads c.cpu) ?_
  refine written.withDefault "memory" (by simp) (text_reads c.memory) ?_
  refine written.withDefault "servicePort" (by simp) (uint16_reads c.servicePort) ?_
  refine written.withDefault "serviceType" (by simp) (serviceType_reads_back c.serviceType) ?_
  refine written.withDefault "workspaceClaim" (by simp) (text_reads c.workspaceClaim) ?_
  refine written.withDefault "workspaceRoot" (by simp) (text_reads c.workspaceRoot) ?_
  refine written.withDefault "archiveClaim" (by simp) (text_reads c.archiveClaim) ?_
  refine written.withDefault "archiveRoot" (by simp) (text_reads c.archiveRoot) ?_
  refine written.withDefault "routeGateway" (by simp) (text_reads c.routeGateway) ?_
  refine written.withDefault "routeHost" (by simp) (text_reads c.routeHost) ?_
  refine written.withDefault "routeTimeout" (by simp) (text_reads c.routeTimeout) ?_
  refine written.withDefault "externalAddress" (by simp) (text_reads c.externalAddress) ?_
  refine written.withDefault "nodeSelector" (by simp) (texts_reads sorted) ?_
  refine written.withDefault "schedulerName" (by simp) (nullableText_reads c.schedulerName) ?_
  refine written.withDefault "imagePullSecret" (by simp) (nullableText_reads c.imagePullSecret) ?_
  refine written.withDefault "rollbackOnRouteFailure" (by simp) rollback ?_
  rfl

theorem serving_reads_back (c : ServingConfig) (sorted : Table.Sorted c.nodeSelector) :
    ReadsAs ServingConfig.ofDocument? c.toJson c := by
  intro d h
  obtain ⟨fields, hfields, written⟩ := fields_written ["namespace", "image", "replicas", "cpu",
    "memory", "imagePullPolicy", "modelRepository", "httpPort", "grpcPort", "metricsPort",
    "externalAddress", "nodeSelector"] (by simp) (by simp) h
  refine bind_read hfields ?_
  refine written.withDefault "namespace" (by simp) (text_reads c.ns) ?_
  refine written.withDefault "image" (by simp) (nullableText_reads c.image) ?_
  refine written.withDefault "replicas" (by simp) (uint32_reads c.replicas) ?_
  refine written.withDefault "cpu" (by simp) (text_reads c.cpu) ?_
  refine written.withDefault "memory" (by simp) (text_reads c.memory) ?_
  refine written.withDefault "imagePullPolicy" (by simp) (text_reads c.imagePullPolicy) ?_
  refine written.withDefault "modelRepository" (by simp) (text_reads c.modelRepository) ?_
  refine written.withDefault "httpPort" (by simp) (uint16_reads c.httpPort) ?_
  refine written.withDefault "grpcPort" (by simp) (uint16_reads c.grpcPort) ?_
  refine written.withDefault "metricsPort" (by simp) (uint16_reads c.metricsPort) ?_
  refine written.withDefault "externalAddress" (by simp) (text_reads c.externalAddress) ?_
  refine written.withDefault "nodeSelector" (by simp) (texts_reads sorted) ?_
  rfl

theorem training_reads_back (c : TrainingConfig) (sorted : Table.Sorted c.nodeSelector) :
    ReadsAs TrainingConfig.ofDocument? c.toJson c := by
  intro d h
  obtain ⟨fields, hfields, written⟩ := fields_written ["namespace", "image", "masterReplicas",
    "workerReplicas", "cpu", "memory", "restartPolicy", "imagePullPolicy", "rendezvousPort",
    "nodeSelector"] (by simp) (by simp) h
  refine bind_read hfields ?_
  refine written.withDefault "namespace" (by simp) (text_reads c.ns) ?_
  refine written.withDefault "image" (by simp) (nullableText_reads c.image) ?_
  refine written.withDefault "masterReplicas" (by simp) (uint32_reads c.masterReplicas) ?_
  refine written.withDefault "workerReplicas" (by simp) (uint32_reads c.workerReplicas) ?_
  refine written.withDefault "cpu" (by simp) (text_reads c.cpu) ?_
  refine written.withDefault "memory" (by simp) (text_reads c.memory) ?_
  refine written.withDefault "restartPolicy" (by simp) (text_reads c.restartPolicy) ?_
  refine written.withDefault "imagePullPolicy" (by simp) (text_reads c.imagePullPolicy) ?_
  refine written.withDefault "rendezvousPort" (by simp) (uint16_reads c.rendezvousPort) ?_
  refine written.withDefault "nodeSelector" (by simp) (texts_reads sorted) ?_
  rfl

theorem config_reads_back {c : Config} (session : Table.Sorted c.session.nodeSelector)
    (serving : Table.Sorted c.serving.nodeSelector)
    (training : Table.Sorted c.training.nodeSelector) :
    ReadsAs Config.ofDocument? c.toJson c := by
  intro d h
  obtain ⟨fields, hfields, written⟩ :=
    fields_written ["session", "serving", "training"] (by simp) (by simp) h
  refine bind_read hfields ?_
  refine written.withDefault "session" (by simp) (session_reads_back c.session session) ?_
  refine written.withDefault "serving" (by simp) (serving_reads_back c.serving serving) ?_
  refine written.withDefault "training" (by simp) (training_reads_back c.training training) ?_
  rfl

/-! ### Equal configurations -/

theorem ofTexts_inj {t other : Table String} (h : Json.ofTexts t = .ofTexts other) : t = other := by
  refine List.map_injective_iff.mpr (fun a b heq => ?_) (Json.object.inj h)
  obtain ⟨hname, hvalue⟩ := Prod.mk.inj heq
  exact Prod.ext hname (Json.string.inj hvalue)

theorem held_sorted {default t : Table String} {given : Option Document}
    (sorted : Table.Sorted default)
    (h : held textTable? .ofTexts default given = some (.ofTexts t)) : Table.Sorted t := by
  obtain ⟨table, hread, hwrite⟩ := Option.map_eq_some_iff.mp h
  rw [← ofTexts_inj hwrite]
  cases given with
  | none =>
    cases hread
    exact sorted
  | some d => exact textTable?_sorted hread

theorem selectors_sorted {d : Document} {c : Config} (read : Config.ofDocument? d = some c) :
    Table.Sorted c.session.nodeSelector ∧ Table.Sorted c.serving.nodeSelector ∧
      Table.Sorted c.training.nodeSelector := by
  have holds := config_holds read
  simp only [sections, List.forall_mem_cons] at holds
  obtain ⟨session, serving, training, -⟩ := holds
  obtain ⟨atSession, atServing, atTraining⟩ := config_at c "nodeSelector"
  have ofSession := session ("nodeSelector", held textTable? .ofTexts
    SessionConfig.standard.nodeSelector) (by simp [sessionRules])
  have ofServing := serving ("nodeSelector", held textTable? .ofTexts
    ServingConfig.standard.nodeSelector) (by simp [servingRules])
  have ofTraining := training ("nodeSelector", held textTable? .ofTexts
    TrainingConfig.standard.nodeSelector) (by simp [trainingRules])
  refine ⟨held_sorted (List.pairwise_singleton _ _) (ofSession.symm.trans (atSession.trans ?_)),
    held_sorted .nil (ofServing.symm.trans (atServing.trans ?_)),
    held_sorted .nil (ofTraining.symm.trans (atTraining.trans ?_))⟩ <;>
    exact at?_ofMembers (by simp) (by simp)

/-- Members that are named alike and hold the same make the same object. -/
theorem members_ext {members others : List (String × Json)}
    (names : members.map (·.1) = others.map (·.1)) (nodup : (members.map (·.1)).Nodup)
    (same : ∀ name ∈ members.map (·.1),
      (Json.ofMembers members).at? [name] = (Json.ofMembers others).at? [name]) :
    members = others := by
  have length : members.length = others.length := by simpa using congrArg List.length names
  refine List.ext_getElem length fun i hi hi' => ?_
  have name : members[i].1 = others[i].1 := by
    have := congrArg (·[i]?) names
    simpa [hi, hi'] using this
  have here : (Json.ofMembers members).at? [members[i].1] = some members[i].2 :=
    at?_ofMembers (List.pairwise_map.mp nodup) (List.getElem_mem hi)
  have there : (Json.ofMembers others).at? [others[i].1] = some others[i].2 :=
    at?_ofMembers (List.pairwise_map.mp (names ▸ nodup)) (List.getElem_mem hi')
  have value := same members[i].1 (List.mem_map_of_mem (List.getElem_mem hi))
  rw [here, name, there] at value
  exact Prod.ext name (Option.some.inj value)

/-- Configurations that are read are equal if they agree on every field: their JSON forms are then
equal, and each of them is read back from its own. -/
theorem config_ext {d d' : Document} {c c' : Config} (read : Config.ofDocument? d = some c)
    (read' : Config.ofDocument? d' = some c')
    (same : ∀ part ∈ configFields, ∀ key ∈ part.2,
      c.toJson.at? [part.1, key] = c'.toJson.at? [part.1, key]) : c = c' := by
  obtain ⟨session, others⟩ := List.forall_mem_cons.mp same
  obtain ⟨serving, others⟩ := List.forall_mem_cons.mp others
  have training := List.forall_mem_singleton.mp others
  have hsession : c.session.toJson = c'.session.toJson :=
    congrArg Json.ofMembers (members_ext rfl (by simp) fun key hkey =>
      (config_at c key).1.symm.trans ((session key hkey).trans (config_at c' key).1))
  have hserving : c.serving.toJson = c'.serving.toJson :=
    congrArg Json.ofMembers (members_ext rfl (by simp) fun key hkey =>
      (config_at c key).2.1.symm.trans ((serving key hkey).trans (config_at c' key).2.1))
  have htraining : c.training.toJson = c'.training.toJson :=
    congrArg Json.ofMembers (members_ext rfl (by simp) fun key hkey =>
      (config_at c key).2.2.symm.trans ((training key hkey).trans (config_at c' key).2.2))
  have whole : c.toJson = c'.toJson := by
    rw [Config.toJson, hsession, hserving, htraining, Config.toJson]
  obtain ⟨sorted, sortedServing, sortedTraining⟩ := selectors_sorted read
  obtain ⟨sorted', sortedServing', sortedTraining'⟩ := selectors_sorted read'
  have again := config_reads_back sorted sortedServing sortedTraining _ (states_ofJson c.toJson)
  have stated : states (.ofJson c.toJson) c'.toJson = true := by
    rw [whole]
    exact states_ofJson c'.toJson
  have again' := config_reads_back sorted' sortedServing' sortedTraining' _ stated
  exact Option.some.inj (again.symm.trans again')

/-! ### Fields that are null -/

/-- The fields that may be null, each with its section. -/
def nullFields : List (String × String) :=
  [("session", "image"), ("session", "schedulerName"), ("session", "imagePullSecret"),
    ("serving", "image"), ("training", "image")]

theorem null_rules : ∀ part ∈ sections, ∀ rule ∈ part.2, (part.1, rule.1) ∈ nullFields →
    ∃ default, rule.2 = held (nullable? string?) .ofText? default := by
  simp only [sections, sessionRules, servingRules, trainingRules, List.forall_mem_cons]
  simp [nullFields]

theorem nullable?_nothing {read : Document → Option α} {below : Document} {x : Option α}
    (h : nullable? read below = some x) (nothing : below.isNothing = true) : x = none := by
  unfold isNothing at nothing
  split at nothing
  next => exact (Option.some.inj h).symm
  next s =>
    rw [nullable?, if_pos nothing] at h
    exact (Option.some.inj h).symm
  next s =>
    rw [nullable?] at h
    split at h
    · exact (Option.some.inj h).symm
    · cases h
  next => cases nothing

/-- A field that may be null and is given as nothing is null, whatever its default. -/
theorem held_nothing {default : Option String} {below : Document} {j : Json}
    (h : held (nullable? string?) .ofText? default (some below) = some j)
    (nothing : below.isNothing = true) : j = .null := by
  obtain ⟨text, hread, rfl⟩ := Option.map_eq_some_iff.mp h
  rw [nullable?_nothing hread nothing]
  rfl

/-! ### Entries that are no fields -/

/-- A map of a structure has one more entry, and its name is that of no field. -/
inductive Extra (names : List String) : Document → Document → Prop
  | entry {before after : List (Document × Document)} {key value : Document} {name : String}
      (text : key.string? = some name) (unknown : name ∉ names) :
      Extra names (.map (before ++ after)) (.map (before ++ (key, value) :: after))
  | tagged {d e : Document} (tag : Tag) (extra : Extra names d e) :
      Extra names (.tagged tag d) (.tagged tag e)

/-- A configuration has one more entry that is no field, in the whole or in a section. -/
inductive Extended : Document → Document → Prop
  | whole {d e : Document} (extra : Extra (configFields.map (·.1)) d e) : Extended d e
  | inside {before after : List (Document × Document)} {key x y : Document}
      {part : String × List String} (known : part ∈ configFields)
      (text : key.string? = some part.1) (extra : Extra part.2 x y) :
      Extended (.map (before ++ (key, x) :: after)) (.map (before ++ (key, y) :: after))
  | tagged {d e : Document} (tag : Tag) (extended : Extended d e) :
      Extended (.tagged tag d) (.tagged tag e)

section
variable {names : List String} {before after : List (Document × Document)} {key value : Document}
  {name : String}

theorem knownEntries_append :
    knownEntries names (before ++ after) = (knownEntries names before).bind fun first =>
      (knownEntries names after).map fun rest => first ++ rest := by
  simp only [knownEntries, List.mapM_append, Option.bind_eq_bind, Option.pure_def]
  cases before.mapM (namedValue? some) with
  | none => rfl
  | some first => cases after.mapM (namedValue? some) <;> simp

theorem knownEntries_cons (text : key.string? = some name) :
    knownEntries names ((key, value) :: after) = (knownEntries names after).map fun rest =>
      if name ∈ names then (name, value) :: rest else rest := by
  simp only [knownEntries, List.mapM_cons, namedValue?, text, Option.bind_eq_bind,
    Option.bind_some, Option.pure_def]
  cases after.mapM (namedValue? some) with
  | none => rfl
  | some rest => simp [List.filter_cons]

theorem fields?_extra {d e : Document} (extra : Extra names d e) :
    e.fields? names = d.fields? names := by
  induction extra with
  | @entry before after key value name text unknown =>
    have skipped : knownEntries names (before ++ (key, value) :: after) =
        knownEntries names (before ++ after) := by
      simp only [knownEntries_append, knownEntries_cons text, if_neg unknown, Option.map_id']
    rw [fields?, skipped, fields?]
  | tagged tag _ ih => exact ih

variable (before after) in
/-- A value that is exchanged for another changes what is given for its own name alone. -/
theorem given?_exchange (x y : Document) (text : key.string? = some name) (known : name ∈ names) :
    let d := Document.map (before ++ (key, x) :: after)
    let e := Document.map (before ++ (key, y) :: after)
    (e.fields? names).isSome = (d.fields? names).isSome ∧ ∀ other,
      given? names other e = given? names other d ∨
        other = name ∧ given? names other d = some x ∧ given? names other e = some y := by
  simp only [given?, fields?, knownEntries_append, knownEntries_cons text, if_pos known,
    Option.bind_eq_bind]
  cases knownEntries names before with
  | none => simp
  | some first =>
    cases knownEntries names after with
    | none => simp
    | some rest =>
      simp only [Option.bind_some, Option.map_some, List.map_append, List.map_cons]
      by_cases nodup : (first.map Prod.fst ++ name :: rest.map Prod.fst).Nodup
      · simp only [if_pos nodup, Option.bind_some, List.lookup_append, List.lookup_cons]
        refine ⟨rfl, fun other => ?_⟩
        by_cases same : other = name
        -- an earlier entry of the name would be found before the exchanged one
        · cases first.lookup other <;> simp [same]
        · simp [beq_false_of_ne same]
      · simp [if_neg nodup]

end

/-- Entries that are no fields change neither whether a configuration can be read nor what its
fields are given. -/
theorem extended_entries {d e : Document} (extended : Extended d e) :
    (ReadableConfig d → ReadableConfig e) ∧
      ∀ part ∈ configFields, ∀ key, fieldIn? e part key = fieldIn? d part key := by
  induction extended with
  | @whole d e extra =>
    have same := fields?_extra extra
    have sections : ∀ part, part? e part = part? d part := by
      intro part
      rw [part?, part?, given?, given?, same]
    constructor
    · rintro ⟨top, each⟩
      refine ⟨same ▸ top, fun part hpart below hbelow => ?_⟩
      exact each part hpart below (sections part.1 ▸ hbelow)
    · intro part _ key
      rw [fieldIn?, fieldIn?, sections]
  | @inside before after key x y part known text extra =>
    have named : part.1 ∈ configFields.map (·.1) := List.mem_map_of_mem known
    obtain ⟨top, sections⟩ := given?_exchange before after x y text named
    have inner := fields?_extra extra
    have only : ∀ other ∈ configFields, other.1 = part.1 → other = part :=
      fun other hother => List.inj_on_of_nodup_map (by simp [configFields]) hother known
    constructor
    · rintro ⟨readable, each⟩
      refine ⟨top ▸ readable, fun other hother below hbelow => ?_⟩
      rcases sections other.1 with same | ⟨same, old, new⟩
      · exact each other hother below (same.symm.trans hbelow)
      · cases new.symm.trans hbelow
        obtain rfl := only other hother same
        rw [inner]
        exact each other hother x old
    · intro other hother name
      rcases sections other.1 with same | ⟨same, old, new⟩
      · rw [fieldIn?, fieldIn?, part?, part?, same]
      · obtain rfl := only other hother same
        rw [fieldIn?, fieldIn?, part?, part?, old, new, Option.bind_some, Option.bind_some,
          given?, given?, inner]
  | tagged tag _ ih => exact ih

/-! ### Round trip -/

/-- The course of a configuration that a document gives through its JSON form. -/
structure RoundTrip (d : Document) (c : Config) : Prop where
  /-- A text that is read as the JSON form gives the configuration again. -/
  again : ∀ text e, Yaml.read? text = some e → states e c.toJson = true →
    Config.ofYaml text = .ok c
  /-- A field that is given as nothing is null in the JSON form. -/
  null : ∀ part ∈ configFields, ∀ key ∈ part.2, (part.1, key) ∈ nullFields → ∀ below,
    fieldIn? d part key = some below → below.isNothing = true →
      c.toJson.at? [part.1, key] = some .null
  /-- Entries that are no fields change nothing. -/
  unknown : ∀ e, Relation.ReflTransGen Extended d e → Config.ofDocument e = .ok c
  /-- Fields that are missing take their defaults, and the others are as they were. -/
  missing : ∀ e, ReadableConfig e → (∀ part ∈ configFields, ∀ key ∈ part.2,
      fieldIn? e part key = none ∨ fieldIn? e part key = fieldIn? d part key) →
    ∃ c', Config.ofDocument e = .ok c' ∧ ∀ part ∈ configFields, ∀ key ∈ part.2,
      c'.toJson.at? [part.1, key] = if fieldIn? e part key = none
        then Config.standard.toJson.at? [part.1, key] else c.toJson.at? [part.1, key]

theorem ofDocument_ok {d : Document} {c : Config} :
    Config.ofDocument d = .ok c ↔ Config.ofDocument? d = some c ∧ c.problem? = none := by
  have checked : ∀ read : Config, read.checked = .ok c ↔ read = c ∧ c.problem? = none := by
    intro read
    unfold Config.checked
    split
    next problem found =>
      refine iff_of_false (fun h => nomatch h) fun ⟨h, sound⟩ => ?_
      rw [h, sound] at found
      cases found
    next sound => exact ⟨fun h => by cases h; exact ⟨rfl, sound⟩, fun ⟨h, _⟩ => congrArg _ h⟩
  unfold Config.ofDocument
  split
  next read hread => rw [checked, hread, Option.some.injEq]
  next hread => simp [hread]

/-- A configuration without some of its fields is one with their defaults. -/
theorem config_missing {d e : Document} {c : Config} (accepted : Config.ofDocument d = .ok c)
    (readable : ReadableConfig e) (less : ∀ part ∈ configFields, ∀ key ∈ part.2,
      fieldIn? e part key = none ∨ fieldIn? e part key = fieldIn? d part key) :
    ∃ c', Config.ofDocument e = .ok c' ∧ ∀ part ∈ configFields, ∀ key ∈ part.2,
      c'.toJson.at? [part.1, key] = if fieldIn? e part key = none
        then Config.standard.toJson.at? [part.1, key] else c.toJson.at? [part.1, key] := by
  obtain ⟨read, sound⟩ := ofDocument_ok.mp accepted
  obtain ⟨c', read'⟩ := Option.isSome_iff_exists.mp
    (config_accepts_less (Option.isSome_iff_exists.mpr ⟨c, read⟩) readable less)
  have each : ∀ part ∈ configFields, ∀ key ∈ part.2,
      c'.toJson.at? [part.1, key] = if fieldIn? e part key = none
        then Config.standard.toJson.at? [part.1, key] else c.toJson.at? [part.1, key] := by
    intro part hpart key hkey
    split
    next missing => exact field_missing read' part hpart key hkey missing
    next given =>
      have same := (less part hpart key hkey).resolve_left given
      exact field_local read' read part hpart key hkey same
  refine ⟨c', ofDocument_ok.mpr ⟨read', problem?_mixed sound fun part hpart key hkey => ?_⟩, each⟩
  rw [each part hpart key hkey]
  split
  · exact .inl rfl
  · exact .inr rfl

/-- Entries that are no fields do not change a configuration. By induction on the entries added. -/
theorem config_unknown {d e : Document} {c : Config} (accepted : Config.ofDocument d = .ok c)
    (extended : Relation.ReflTransGen Extended d e) : Config.ofDocument e = .ok c := by
  induction extended with
  | refl => exact accepted
  | @tail d' e _ extended ih =>
    obtain ⟨read, sound⟩ := ofDocument_ok.mp ih
    have accepts := Option.isSome_iff_exists.mpr ⟨c, read⟩
    obtain ⟨readable, same⟩ := extended_entries extended
    obtain ⟨c', read'⟩ := Option.isSome_iff_exists.mp
      (config_accepts_less accepts (readable (config_accepts.mp accepts).1)
        fun part hpart key _ => .inr (same part hpart key))
    have hsame : c' = c := config_ext read' read fun part hpart key hkey =>
      field_local read' read part hpart key hkey (same part hpart key)
    exact ofDocument_ok.mpr ⟨hsame ▸ read', sound⟩

theorem config_null {d : Document} {c : Config} (read : Config.ofDocument? d = some c) :
    ∀ part ∈ configFields, ∀ key ∈ part.2, (part.1, key) ∈ nullFields → ∀ below,
      fieldIn? d part key = some below → below.isNothing = true →
        c.toJson.at? [part.1, key] = some .null := by
  refine forall_fields fun part hpart rule hrule nullable below given nothing => ?_
  obtain ⟨default, hheld⟩ := null_rules part hpart rule hrule nullable
  have accepts := Option.isSome_iff_exists.mpr ⟨c, read⟩
  have some := (config_accepts.mp accepts).2 part hpart rule hrule
  rw [config_holds read part hpart rule hrule]
  rw [given, hheld] at some ⊢
  obtain ⟨j, hj⟩ := Option.isSome_iff_exists.mp some
  rw [hj, held_nothing hj nothing]

/-- A configuration that is accepted is given again by what is written of it, with null for each
field that was given as nothing. Fields that are missing and entries that are no fields change
nothing else. -/
theorem config_roundTrip {text : String} {c : Config} (accepted : Config.ofYaml text = .ok c) :
    ∃ d, Yaml.read? text = some d ∧ RoundTrip d c := by
  unfold Config.ofYaml at accepted
  split at accepted
  next d hd =>
    obtain ⟨read, sound⟩ := ofDocument_ok.mp accepted
    obtain ⟨session, serving, training⟩ := selectors_sorted read
    refine ⟨d, hd, ?_, config_null read, fun e => config_unknown accepted,
      fun e => config_missing accepted⟩
    intro text e he stated
    rw [Config.ofYaml, he]
    exact ofDocument_ok.mpr ⟨config_reads_back session serving training e stated, sound⟩
  next => cases accepted

/-- The standard configuration, but without a pull secret. -/
def secretless : Config :=
  { Config.standard with session := { SessionConfig.standard with imagePullSecret := none } }

theorem secretless_read :
    Config.ofYaml "session:\n  imagePullSecret: null\n  color: red\n" = .ok secretless := by
  have read : (Config.ofYaml "session:\n  imagePullSecret: null\n  color: red\n").toOption =
      some secretless := by
    decide +kernel
  generalize Config.ofYaml "session:\n  imagePullSecret: null\n  color: red\n" = outcome at read
  cases outcome with
  | error => cases read
  | ok => exact congrArg _ (Option.some.inj read)

/-- The JSON text is read as the JSON value. -/
theorem secretless_rendered : ∃ e, Yaml.read? secretless.toJson.render = some e ∧
    states e secretless.toJson = true := by
  have chars : secretless.toJson.render.toList = Json.Printer.value secretless.toJson :=
    String.toList_ofList
  have read : (Yaml.read? secretless.toJson.render).any
      (fun e => states e secretless.toJson) = true := by
    rw [Yaml.read?, Yaml.nodes?, chars]
    decide +kernel
  exact (Option.any_eq_true _ _).mp read

/-- A pull secret that is taken away stays away, although there is one by default. -/
theorem secretless_roundTrip :
    SessionConfig.standard.imagePullSecret = some "hubsecret" ∧
      secretless.session.imagePullSecret = none ∧
      (∃ d, Yaml.read? "session:\n  imagePullSecret: null\n  color: red\n" = some d ∧
        RoundTrip d secretless) ∧
      Config.ofYaml secretless.toJson.render = .ok secretless := by
  obtain ⟨d, hd, trip⟩ := config_roundTrip secretless_read
  obtain ⟨e, he, stated⟩ := secretless_rendered
  exact ⟨rfl, rfl, ⟨d, hd, trip⟩, trip.again _ e he stated⟩

end ClusterProvisioning.Proofs
