import ClusterProvisioning.Config
import ClusterProvisioning.Proofs.DocumentReading
import ClusterProvisioning.Proofs.JsonPaths
import ClusterProvisioning.Proofs.PlanNamespaces

/-!
# The fields of configurations

Each field of a configuration has a rule that tells, from what a document gives the field, whether
the field accepts it and what the field then holds. A document is a configuration exactly if it can
be read as far as its sections and every field accepts what it is given (`config_accepts`), and what
a field holds depends on what this field is given alone (`field_local`).
-/

namespace ClusterProvisioning.Proofs
open Document

variable {α : Type}

/-- The sections of a configuration with the names of their fields. -/
def configFields : List (String × List String) :=
  [("session", ["namespace", "image", "cpu", "memory", "servicePort", "serviceType",
      "workspaceClaim", "workspaceRoot", "archiveClaim", "archiveRoot", "routeGateway",
      "routeHost", "routeTimeout", "externalAddress", "nodeSelector", "schedulerName",
      "imagePullSecret", "rollbackOnRouteFailure"]),
    ("serving", ["namespace", "image", "replicas", "cpu", "memory", "imagePullPolicy",
      "modelRepository", "httpPort", "grpcPort", "metricsPort", "externalAddress",
      "nodeSelector"]),
    ("training", ["namespace", "image", "masterReplicas", "workerReplicas", "cpu", "memory",
      "restartPolicy", "imagePullPolicy", "rendezvousPort", "nodeSelector"])]

/-- What a document gives a field of a structure with fields of these names. -/
def given? (names : List String) (name : String) (d : Document) : Option Document :=
  (d.fields? names).bind (·.lookup name)

/-- What a document gives a section of a configuration. -/
def part? (d : Document) (part : String) : Option Document :=
  given? (configFields.map (·.1)) part d

/-- What a document gives a field of a section. -/
def fieldIn? (d : Document) (part : String × List String) (key : String) : Option Document :=
  (part? d part.1).bind (given? part.2 key)

/-- A document has entries of different names, and so have its sections. -/
def ReadableConfig (d : Document) : Prop :=
  (d.fields? (configFields.map (·.1))).isSome = true ∧ ∀ part ∈ configFields, ∀ below,
    part? d part.1 = some below → (below.fields? part.2).isSome = true

/-! ### What fields hold -/

/-- What a field holds, in its JSON form, by what it is given. -/
abbrev Rule := Option Document → Option Json

/-- The rule of a field with a default. -/
def held (read : Document → Option α) (write : α → Json) (default : α) : Rule :=
  fun given => (given.elim (some default) read).map write

/-- A structure is read and written by the rules of its fields: it is read exactly if all fields
accept what they are given, and then its JSON form holds what they hold. -/
structure RuledBy (read : Document → Option α) (write : α → Json) (rules : List (String × Rule)) :
    Prop where
  accepts : ∀ d, (read d).isSome = true ↔ ∃ fields, d.fields? (rules.map (·.1)) = some fields ∧
    ∀ rule ∈ rules, (rule.2 (fields.lookup rule.1)).isSome = true
  holds : ∀ d c fields, read d = some c → d.fields? (rules.map (·.1)) = some fields →
    ∀ rule ∈ rules, (write c).at? [rule.1] = rule.2 (fields.lookup rule.1)

theorem held_isSome (fields : Fields) (name : String) (read : Document → Option α)
    (write : α → Json) (default : α) :
    (fields.withDefault name read default).isSome = true ↔
      (held read write default (fields.lookup name)).isSome = true := by
  unfold Fields.withDefault held
  cases fields.lookup name <;> simp

theorem at?_ofMembers {members : List (String × Json)} {name : String} {value : Json}
    (distinct : members.Pairwise fun a b => a.1 ≠ b.1) (mem : (name, value) ∈ members) :
    (Json.ofMembers members).at? [name] = some value :=
  (at?_member _ name).trans (Table.get?_extend_of_mem [] distinct mem)

theorem held_of_read {fields : Fields} {name : String} {read : Document → Option α}
    {write : α → Json} {default x : α} {names : List String} {members : List (String × Json)}
    (h : fields.withDefault name read default = some x) (nodup : names.Nodup)
    (same : members.map (·.1) = names) (mem : (name, write x) ∈ members) :
    (Json.ofMembers members).at? [name] = held read write default (fields.lookup name) := by
  subst same
  rw [at?_ofMembers (List.pairwise_map.mp nodup) mem]
  unfold Fields.withDefault at h
  unfold held
  cases given : fields.lookup name with
  | none =>
    rw [given] at h
    cases h
    rfl
  | some d =>
    rw [given] at h
    exact (congrArg (Option.map write) h).symm

theorem accepts_of_steps {read : Document → Option α} {next : Fields → Option α}
    {rules : List (String × Rule)}
    (reads : ∀ d, read d = (d.fields? (rules.map (·.1))).bind next)
    (steps : ∀ fields : Fields, (next fields).isSome = true ↔
      ∀ rule ∈ rules, (rule.2 (fields.lookup rule.1)).isSome = true) (d : Document) :
    (read d).isSome = true ↔ ∃ fields, d.fields? (rules.map (·.1)) = some fields ∧
      ∀ rule ∈ rules, (rule.2 (fields.lookup rule.1)).isSome = true := by
  rw [reads d]
  cases d.fields? (rules.map (·.1)) with
  | none => simp
  | some fields => simp [steps fields]

/-- The rules of a session's fields. -/
def sessionRules : List (String × Rule) :=
  let s := SessionConfig.standard
  [("namespace", held string? .string s.ns),
    ("image", held (nullable? string?) .ofText? s.image),
    ("cpu", held string? .string s.cpu),
    ("memory", held string? .string s.memory),
    ("servicePort", held uint16? (fun n => .ofNat n.toNat) s.servicePort),
    ("serviceType", held ServiceType.ofDocument? (fun type => .string (toString type))
      s.serviceType),
    ("workspaceClaim", held string? .string s.workspaceClaim),
    ("workspaceRoot", held string? .string s.workspaceRoot),
    ("archiveClaim", held string? .string s.archiveClaim),
    ("archiveRoot", held string? .string s.archiveRoot),
    ("routeGateway", held string? .string s.routeGateway),
    ("routeHost", held string? .string s.routeHost),
    ("routeTimeout", held string? .string s.routeTimeout),
    ("externalAddress", held string? .string s.externalAddress),
    ("nodeSelector", held textTable? .ofTexts s.nodeSelector),
    ("schedulerName", held (nullable? string?) .ofText? s.schedulerName),
    ("imagePullSecret", held (nullable? string?) .ofText? s.imagePullSecret),
    ("rollbackOnRouteFailure", held bool? .bool s.rollbackOnRouteFailure)]

def servingRules : List (String × Rule) :=
  let s := ServingConfig.standard
  [("namespace", held string? .string s.ns),
    ("image", held (nullable? string?) .ofText? s.image),
    ("replicas", held uint32? (fun n => .ofNat n.toNat) s.replicas),
    ("cpu", held string? .string s.cpu),
    ("memory", held string? .string s.memory),
    ("imagePullPolicy", held string? .string s.imagePullPolicy),
    ("modelRepository", held string? .string s.modelRepository),
    ("httpPort", held uint16? (fun n => .ofNat n.toNat) s.httpPort),
    ("grpcPort", held uint16? (fun n => .ofNat n.toNat) s.grpcPort),
    ("metricsPort", held uint16? (fun n => .ofNat n.toNat) s.metricsPort),
    ("externalAddress", held string? .string s.externalAddress),
    ("nodeSelector", held textTable? .ofTexts s.nodeSelector)]

def trainingRules : List (String × Rule) :=
  let s := TrainingConfig.standard
  [("namespace", held string? .string s.ns),
    ("image", held (nullable? string?) .ofText? s.image),
    ("masterReplicas", held uint32? (fun n => .ofNat n.toNat) s.masterReplicas),
    ("workerReplicas", held uint32? (fun n => .ofNat n.toNat) s.workerReplicas),
    ("cpu", held string? .string s.cpu),
    ("memory", held string? .string s.memory),
    ("restartPolicy", held string? .string s.restartPolicy),
    ("imagePullPolicy", held string? .string s.imagePullPolicy),
    ("rendezvousPort", held uint16? (fun n => .ofNat n.toNat) s.rendezvousPort),
    ("nodeSelector", held textTable? .ofTexts s.nodeSelector)]

/-- The sections of a configuration with the rules of their fields. -/
def sections : List (String × List (String × Rule)) :=
  [("session", sessionRules), ("serving", servingRules), ("training", trainingRules)]

theorem session_ruled : RuledBy SessionConfig.ofDocument? SessionConfig.toJson sessionRules := by
  constructor
  · refine accepts_of_steps (fun _ => rfl) fun fields => ?_
    repeat refine isSome_step (held_isSome fields _ _ _ _) fun _ => ?_
    exact isSome_done _
  · intro d c fields
    refine of_bind fun fields' hfields' => ?_
    repeat refine of_bind fun _ _ => ?_
    intro read hfields
    cases read
    cases hfields'.symm.trans hfields
    have nodup : (sessionRules.map (·.1)).Nodup := by simp [sessionRules]
    repeat refine List.forall_mem_cons.mpr ⟨held_of_read ‹_› nodup rfl (by simp), ?_⟩
    exact List.forall_mem_nil _

theorem serving_ruled : RuledBy ServingConfig.ofDocument? ServingConfig.toJson servingRules := by
  constructor
  · refine accepts_of_steps (fun _ => rfl) fun fields => ?_
    repeat refine isSome_step (held_isSome fields _ _ _ _) fun _ => ?_
    exact isSome_done _
  · intro d c fields
    refine of_bind fun fields' hfields' => ?_
    repeat refine of_bind fun _ _ => ?_
    intro read hfields
    cases read
    cases hfields'.symm.trans hfields
    have nodup : (servingRules.map (·.1)).Nodup := by simp [servingRules]
    repeat refine List.forall_mem_cons.mpr ⟨held_of_read ‹_› nodup rfl (by simp), ?_⟩
    exact List.forall_mem_nil _

theorem training_ruled :
    RuledBy TrainingConfig.ofDocument? TrainingConfig.toJson trainingRules := by
  constructor
  · refine accepts_of_steps (fun _ => rfl) fun fields => ?_
    repeat refine isSome_step (held_isSome fields _ _ _ _) fun _ => ?_
    exact isSome_done _
  · intro d c fields
    refine of_bind fun fields' hfields' => ?_
    repeat refine of_bind fun _ _ => ?_
    intro read hfields
    cases read
    cases hfields'.symm.trans hfields
    have nodup : (trainingRules.map (·.1)).Nodup := by simp [trainingRules]
    repeat refine List.forall_mem_cons.mpr ⟨held_of_read ‹_› nodup rfl (by simp), ?_⟩
    exact List.forall_mem_nil _

/-! ### Sections -/

theorem config_ruled : RuledBy Config.ofDocument? Config.toJson
    [("session", held SessionConfig.ofDocument? SessionConfig.toJson .standard),
      ("serving", held ServingConfig.ofDocument? ServingConfig.toJson .standard),
      ("training", held TrainingConfig.ofDocument? TrainingConfig.toJson .standard)] := by
  constructor
  · refine accepts_of_steps (fun _ => rfl) fun fields => ?_
    repeat refine isSome_step (held_isSome fields _ _ _ _) fun _ => ?_
    exact isSome_done _
  · intro d c fields
    refine of_bind fun fields' hfields' => ?_
    repeat refine of_bind fun _ _ => ?_
    intro read hfields
    cases read
    cases hfields'.symm.trans hfields
    have nodup : ["session", "serving", "training"].Nodup := by simp
    repeat refine List.forall_mem_cons.mpr ⟨held_of_read ‹_› nodup rfl (by simp), ?_⟩
    exact List.forall_mem_nil _

section
variable {read : Document → Option α} {write : α → Json} {rules : List (String × Rule)}
  {default : α} {given : Option Document}

/-- An empty scalar gives a structure whose fields all hold their defaults. -/
theorem RuledBy.standard (ruled : RuledBy read write rules)
    (empty : read (.plain "") = some default) :
    ∀ rule ∈ rules, (rule.2 none).isSome = true ∧ (write default).at? [rule.1] = rule.2 none := by
  intro rule hrule
  obtain ⟨fields, hfields, each⟩ :=
    (ruled.accepts (.plain "")).mp (Option.isSome_iff_exists.mpr ⟨_, empty⟩)
  cases hfields
  exact ⟨each rule hrule, ruled.holds _ _ _ empty rfl rule hrule⟩

theorem RuledBy.section_accepts (ruled : RuledBy read write rules)
    (empty : read (.plain "") = some default) :
    (held read write default given).isSome = true ↔
      (∀ below, given = some below → (below.fields? (rules.map (·.1))).isSome = true) ∧
        ∀ rule ∈ rules, (rule.2 (given.bind (given? (rules.map (·.1)) rule.1))).isSome = true := by
  cases given with
  | none =>
    refine iff_of_true rfl ⟨fun _ h => (nomatch h), fun rule hrule => ?_⟩
    exact (ruled.standard empty rule hrule).1
  | some below =>
    have accepted : (held read write default (some below)).isSome = (read below).isSome :=
      Option.isSome_map
    rw [accepted, ruled.accepts]
    simp only [Option.some.injEq, forall_eq', Option.bind_some, given?]
    cases below.fields? (rules.map (·.1)) with
    | none => simp
    | some fields => simp

/-- In a value that holds a structure the fields hold what they are given. -/
theorem RuledBy.section_holds (ruled : RuledBy read write rules)
    (empty : read (.plain "") = some default) {whole : Json} {name : String}
    (accepted : (held read write default given).isSome = true)
    (top : whole.at? [name] = held read write default given) :
    ∀ rule ∈ rules, whole.at? [name, rule.1] =
      rule.2 (given.bind (given? (rules.map (·.1)) rule.1)) := by
  intro rule hrule
  rw [show [name, rule.1] = [name] ++ [rule.1] from rfl, at?_append, top]
  cases given with
  | none => exact (ruled.standard empty rule hrule).2
  | some below =>
    have accepted : (read below).isSome = true := by rwa [held, Option.isSome_map] at accepted
    obtain ⟨c, hc⟩ := Option.isSome_iff_exists.mp accepted
    obtain ⟨fields, hfields, -⟩ := (ruled.accepts below).mp accepted
    have hheld : held read write default (some below) = some (write c) := congrArg _ hc
    rw [hheld, Option.bind_some, ruled.holds below c fields hc hfields rule hrule, Option.bind_some,
      given?, hfields]
    rfl

end

theorem part?_eq {d : Document} {fields : Fields}
    (hfields : d.fields? (configFields.map (·.1)) = some fields) (part : String) :
    part? d part = fields.lookup part := by
  rw [part?, given?, hfields]
  rfl

/-- A document is a configuration exactly if it is readable and all fields accept what they are
given. -/
theorem config_accepts {d : Document} :
    (Config.ofDocument? d).isSome = true ↔ ReadableConfig d ∧ ∀ part ∈ sections, ∀ rule ∈ part.2,
      (rule.2 (fieldIn? d (part.1, part.2.map (·.1)) rule.1)).isSome = true := by
  have top : (Config.ofDocument? d).isSome = true ↔
      (d.fields? (configFields.map (·.1))).isSome = true ∧
        (held SessionConfig.ofDocument? SessionConfig.toJson .standard
          (part? d "session")).isSome = true ∧
        (held ServingConfig.ofDocument? ServingConfig.toJson .standard
          (part? d "serving")).isSome = true ∧
        (held TrainingConfig.ofDocument? TrainingConfig.toJson .standard
          (part? d "training")).isSome = true := by
    refine (config_ruled.accepts d).trans ⟨?_, ?_⟩
    · rintro ⟨fields, hfields, each⟩
      simp only [List.forall_mem_cons, ← part?_eq hfields] at each
      obtain ⟨hsession, hserving, htraining, -⟩ := each
      exact ⟨Option.isSome_iff_exists.mpr ⟨fields, hfields⟩, hsession, hserving, htraining⟩
    · rintro ⟨some, hsession, hserving, htraining⟩
      obtain ⟨fields, hfields⟩ := Option.isSome_iff_exists.mp some
      refine ⟨fields, hfields, ?_⟩
      simp only [List.forall_mem_cons, ← part?_eq hfields]
      exact ⟨hsession, hserving, htraining, List.forall_mem_nil _⟩
  rw [top, session_ruled.section_accepts rfl, serving_ruled.section_accepts rfl,
    training_ruled.section_accepts rfl]
  simp only [ReadableConfig, sections, configFields, List.forall_mem_cons]
  constructor
  · rintro ⟨some, ⟨hsession, session⟩, ⟨hserving, serving⟩, ⟨htraining, training⟩⟩
    exact ⟨⟨some, hsession, hserving, htraining, List.forall_mem_nil _⟩, session, serving,
      training, List.forall_mem_nil _⟩
  · rintro ⟨⟨some, hsession, hserving, htraining, -⟩, session, serving, training, -⟩
    exact ⟨some, ⟨hsession, session⟩, ⟨hserving, serving⟩, ⟨htraining, training⟩⟩

/-- The JSON form of a configuration holds what its fields hold. -/
theorem config_holds {d : Document} {c : Config} (read : Config.ofDocument? d = some c) :
    ∀ part ∈ sections, ∀ rule ∈ part.2, c.toJson.at? [part.1, rule.1] =
      rule.2 (fieldIn? d (part.1, part.2.map (·.1)) rule.1) := by
  have accepted : (Config.ofDocument? d).isSome = true := Option.isSome_iff_exists.mpr ⟨c, read⟩
  obtain ⟨fields, hfields, each⟩ := (config_ruled.accepts d).mp accepted
  have top := config_ruled.holds d c fields read hfields
  simp only [List.forall_mem_cons, ← part?_eq hfields] at each top
  obtain ⟨hsession, hserving, htraining, -⟩ := each
  obtain ⟨session, serving, training, -⟩ := top
  refine List.forall_mem_cons.mpr ⟨session_ruled.section_holds rfl hsession session, ?_⟩
  refine List.forall_mem_cons.mpr ⟨serving_ruled.section_holds rfl hserving serving, ?_⟩
  exact List.forall_mem_singleton.mpr (training_ruled.section_holds rfl htraining training)

theorem configFields_eq :
    configFields = sections.map fun part => (part.1, part.2.map (·.1)) := rfl

/-- Every field of a configuration has a rule. -/
theorem forall_fields {P : String × List String → String → Prop}
    (each : ∀ part ∈ sections, ∀ rule ∈ part.2, P (part.1, part.2.map (·.1)) rule.1) :
    ∀ part ∈ configFields, ∀ key ∈ part.2, P part key := by
  intro part hpart key hkey
  rw [configFields_eq] at hpart
  obtain ⟨ruled, hruled, rfl⟩ := List.mem_map.mp hpart
  obtain ⟨rule, hrule, rfl⟩ := List.mem_map.mp hkey
  exact each ruled hruled rule hrule

/-- What a field holds depends on what the field is given alone. -/
theorem field_local {d d' : Document} {c c' : Config} (read : Config.ofDocument? d = some c)
    (read' : Config.ofDocument? d' = some c') : ∀ part ∈ configFields, ∀ key ∈ part.2,
      fieldIn? d part key = fieldIn? d' part key →
        c.toJson.at? [part.1, key] = c'.toJson.at? [part.1, key] := by
  refine forall_fields fun part hpart rule hrule same => ?_
  rw [config_holds read part hpart rule hrule, config_holds read' part hpart rule hrule, same]

/-- A field that is missing holds its default: it is not given by an empty scalar either. -/
theorem field_missing {d : Document} {c : Config} (read : Config.ofDocument? d = some c) :
    ∀ part ∈ configFields, ∀ key ∈ part.2, fieldIn? d part key = none →
      c.toJson.at? [part.1, key] = Config.standard.toJson.at? [part.1, key] := by
  intro part hpart key hkey missing
  have empty : Config.ofDocument? (.plain "") = some .standard := rfl
  exact field_local read empty part hpart key hkey missing

/-- A document whose fields are missing or given as in a configuration is a configuration. -/
theorem config_accepts_less {d e : Document} (accepted : (Config.ofDocument? d).isSome = true)
    (readable : ReadableConfig e)
    (less : ∀ part ∈ configFields, ∀ key ∈ part.2,
      fieldIn? e part key = none ∨ fieldIn? e part key = fieldIn? d part key) :
    (Config.ofDocument? e).isSome = true := by
  have empty : (Config.ofDocument? (.plain "")).isSome = true := rfl
  refine config_accepts.mpr ⟨readable, fun part hpart rule hrule => ?_⟩
  have known : (part.1, part.2.map (·.1)) ∈ configFields := by
    rw [configFields_eq]
    exact List.mem_map_of_mem hpart
  rcases less _ known rule.1 (List.mem_map_of_mem hrule) with missing | same
  · rw [missing]
    exact (config_accepts.mp empty).2 part hpart rule hrule
  · rw [same]
    exact (config_accepts.mp accepted).2 part hpart rule hrule

/-! ### Checks -/

theorem config_at (c : Config) (key : String) :
    c.toJson.at? ["session", key] = c.session.toJson.at? [key] ∧
      c.toJson.at? ["serving", key] = c.serving.toJson.at? [key] ∧
      c.toJson.at? ["training", key] = c.training.toJson.at? [key] := by
  have below : ∀ part j, c.toJson.at? [part] = some j → c.toJson.at? [part, key] = j.at? [key] := by
    intro part j top
    rw [show [part, key] = [part] ++ [key] from rfl, at?_append, top]
    rfl
  refine ⟨below _ _ ?_, below _ _ ?_, below _ _ ?_⟩ <;>
    exact at?_ofMembers (by simp) (by simp)

/-- Where the ports of a configuration stand in its JSON form. -/
def portPaths : List (List String) :=
  [["session", "servicePort"], ["serving", "httpPort"], ["serving", "grpcPort"],
    ["serving", "metricsPort"], ["training", "rendezvousPort"]]

/-- Where the namespaces of a configuration stand in its JSON form. -/
def namespacePaths : List (List String) :=
  [["session", "namespace"], ["serving", "namespace"], ["training", "namespace"]]

theorem ofNat_eq_zero {port : UInt16} : Json.ofNat port.toNat = .ofNat 0 ↔ port = 0 := by
  simp [Json.ofNat, ← UInt16.toNat_inj]

/-- Whether a configuration is sound can be told from its JSON form. -/
theorem problem?_paths {c : Config} :
    c.problem? = none ↔ (∀ path ∈ portPaths, c.toJson.at? path ≠ some (.ofNat 0)) ∧
      ∀ path ∈ namespacePaths, c.toJson.at? path ≠ some (.string "") := by
  have service : c.session.toJson.at? ["servicePort"] = some (.ofNat c.session.servicePort.toNat) :=
    at?_ofMembers (by simp) (by simp)
  have http : c.serving.toJson.at? ["httpPort"] = some (.ofNat c.serving.httpPort.toNat) :=
    at?_ofMembers (by simp) (by simp)
  have grpc : c.serving.toJson.at? ["grpcPort"] = some (.ofNat c.serving.grpcPort.toNat) :=
    at?_ofMembers (by simp) (by simp)
  have metrics : c.serving.toJson.at? ["metricsPort"] =
      some (.ofNat c.serving.metricsPort.toNat) := at?_ofMembers (by simp) (by simp)
  have rendezvous : c.training.toJson.at? ["rendezvousPort"] =
      some (.ofNat c.training.rendezvousPort.toNat) := at?_ofMembers (by simp) (by simp)
  have session : c.session.toJson.at? ["namespace"] = some (.string c.session.ns) :=
    at?_ofMembers (by simp) (by simp)
  have serving : c.serving.toJson.at? ["namespace"] = some (.string c.serving.ns) :=
    at?_ofMembers (by simp) (by simp)
  have training : c.training.toJson.at? ["namespace"] = some (.string c.training.ns) :=
    at?_ofMembers (by simp) (by simp)
  rw [problem?_none]
  simp only [Config.ports, Config.namespaces, portPaths, namespacePaths, List.forall_mem_cons,
    (config_at c _).1, (config_at c _).2.1, (config_at c _).2.2, service, http, grpc, metrics,
    rendezvous, session, serving, training, ne_eq, Option.some.injEq, ofNat_eq_zero,
    Json.string.injEq]
  simp

theorem checked_paths : ∀ path ∈ portPaths ++ namespacePaths,
    ∃ part ∈ configFields, ∃ key ∈ part.2, path = [part.1, key] := by
  simp [portPaths, namespacePaths, configFields]

/-- A configuration whose fields are those of a sound one, or the standard ones, is sound. -/
theorem problem?_mixed {c c' : Config} (sound : c.problem? = none)
    (mixed : ∀ part ∈ configFields, ∀ key ∈ part.2,
      c'.toJson.at? [part.1, key] = Config.standard.toJson.at? [part.1, key] ∨
        c'.toJson.at? [part.1, key] = c.toJson.at? [part.1, key]) : c'.problem? = none := by
  have standard : Config.standard.problem? = none := rfl
  have each : ∀ path ∈ portPaths ++ namespacePaths,
      c'.toJson.at? path = Config.standard.toJson.at? path ∨
        c'.toJson.at? path = c.toJson.at? path := by
    intro path hpath
    obtain ⟨part, hpart, key, hkey, rfl⟩ := checked_paths path hpath
    exact mixed part hpart key hkey
  obtain ⟨ports, namespaces⟩ := problem?_paths.mp sound
  obtain ⟨ports', namespaces'⟩ := problem?_paths.mp standard
  refine problem?_paths.mpr ⟨fun path hpath => ?_, fun path hpath => ?_⟩
  · rcases each path (List.mem_append_left _ hpath) with h | h
    · exact fun zero => ports' path hpath (h.symm.trans zero)
    · exact fun zero => ports path hpath (h.symm.trans zero)
  · rcases each path (List.mem_append_right _ hpath) with h | h
    · exact fun empty => namespaces' path hpath (h.symm.trans empty)
    · exact fun empty => namespaces path hpath (h.symm.trans empty)

end ClusterProvisioning.Proofs
