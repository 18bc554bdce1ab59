import ClusterProvisioning.Proofs.DocumentShapes
import ClusterProvisioning.Workload

/-!
# Forms of workload requests

A request is given as an object by the names of its fields, or as an array in their order, and it is
written as an object with every field. What is written of a request is read as the same request, and
a value is no request exactly if it has something against the shape of one (`request_roundTrip`).
-/

namespace ClusterProvisioning.Proofs
open Document

/-! ### Reading what was written -/

theorem kind_reads_back (kind : WorkloadKind) :
    ReadsAs WorkloadKind.ofDocument? (.string (toString kind)) kind := by
  intro d h
  rw [WorkloadKind.ofDocument?, variant_reads _ d h]
  cases kind <;> rfl

theorem replicas_reads_back (r : ReplicaCounts) :
    ReadsAs ReplicaCounts.ofDocument? r.toJson r := by
  intro d h
  obtain ⟨fields, hfields, written⟩ := fields_written ["primary", "worker"]
    (by simp) (by simp) h
  have count := nullableCount_reads uint32_reads
  refine bind_read hfields ?_
  refine written.withDefault "primary" (by simp) (count r.primary) ?_
  refine written.withDefault "worker" (by simp) (count r.worker) ?_
  rfl

theorem mount_reads_back (m : MountSpec) : ReadsAs MountSpec.ofDocument? m.toJson m := by
  intro d h
  obtain ⟨fields, hfields, written⟩ :=
    fields_written ["claim_name", "mount_path", "sub_path", "read_only"]
      (by simp) (by simp) h
  refine bind_read hfields ?_
  refine written.required "claim_name" (by simp) (text_reads m.claimName) ?_
  refine written.required "mount_path" (by simp) (text_reads m.mountPath) ?_
  refine written.withDefault "sub_path" (by simp) (nullableText_reads m.subPath) ?_
  refine written.withDefault "read_only" (by simp) (truth_reads m.readOnly) ?_
  rfl

theorem env_reads_back (v : EnvVar) : ReadsAs EnvVar.ofDocument? v.toJson v := by
  intro d h
  obtain ⟨fields, hfields, written⟩ := fields_written ["name", "value"]
    (by simp) (by simp) h
  refine bind_read hfields ?_
  refine written.required "name" (by simp) (text_reads v.name) ?_
  refine written.required "value" (by simp) (text_reads v.value) ?_
  rfl

theorem resources_reads_back (r : ResourceTexts) :
    ReadsAs ResourceTexts.ofDocument? r.toJson r := by
  intro d h
  obtain ⟨fields, hfields, written⟩ := fields_written ["cpu", "memory", "gpu"]
    (by simp) (by simp) h
  refine bind_read hfields ?_
  refine written.withDefault "cpu" (by simp) (nullableText_reads r.cpu) ?_
  refine written.withDefault "memory" (by simp) (nullableText_reads r.memory) ?_
  refine written.withDefault "gpu" (by simp) (nullableCount_reads uint64_reads r.gpu) ?_
  rfl

theorem request_reads_back (r : WorkloadRequest) (selector : Table.Sorted r.nodeSelector)
    (labels : Table.Sorted r.labels) : ReadsAs WorkloadRequest.ofDocument? r.toJson r := by
  intro d h
  obtain ⟨fields, hfields, written⟩ := fields_written WorkloadRequest.fieldNames
    (by simp) (by simp [WorkloadRequest.fieldNames]) h
  have texts := list_reads text_reads
  refine bind_read hfields ?_
  refine written.required "kind" (by simp) (kind_reads_back r.kind) ?_
  refine written.required "name" (by simp) (text_reads r.name) ?_
  refine written.withDefault "namespace" (by simp) (text_reads r.ns) ?_
  refine written.required "owner" (by simp) (text_reads r.owner) ?_
  refine written.withDefault "image" (by simp) (text_reads r.image) ?_
  refine written.withDefault "resources" (by simp) (resources_reads_back r.resources) ?_
  refine written.withDefault "replicas" (by simp) (replicas_reads_back r.replicas) ?_
  refine written.withDefault "command" (by simp [Json.ofTextList]) (texts r.command) ?_
  refine written.withDefault "args" (by simp [Json.ofTextList]) (texts r.args) ?_
  refine written.withDefault "mounts" (by simp) (list_reads mount_reads_back r.mounts) ?_
  refine written.withDefault "ports" (by simp) (list_reads uint16_reads r.ports) ?_
  refine written.withDefault "env" (by simp) (list_reads env_reads_back r.env) ?_
  refine written.withDefault "node_selector" (by simp) (texts_reads selector) ?_
  refine written.withDefault "labels" (by simp) (texts_reads labels) ?_
  refine written.withDefault "restart_policy" (by simp) (nullableText_reads r.restartPolicy) ?_
  refine written.withDefault "image_pull_policy" (by simp) (nullableText_reads r.imagePullPolicy) ?_
  rfl

theorem withDefault_sorted {fields : Fields} {name : String} {default t : Table String}
    (sorted : Table.Sorted default) (h : fields.withDefault name textTable? default = some t) :
    Table.Sorted t := by
  unfold Fields.withDefault at h
  split at h
  · exact textTable?_sorted h
  · cases h
    exact sorted

/-- The tables of a request that was read are in order, and so they are read back as they are. -/
theorem request_sorted {d : Document} {r : WorkloadRequest}
    (accepted : WorkloadRequest.ofDocument? d = some r) :
    Table.Sorted r.nodeSelector ∧ Table.Sorted r.labels := by
  revert accepted
  repeat refine of_bind fun _ _ => ?_
  intro read
  cases read
  exact ⟨withDefault_sorted .nil ‹_›, withDefault_sorted .nil ‹_›⟩

/-! ### Requests -/

def replicasShape : Shape :=
  .record [("primary", false, .nullable (.count UInt32.size)),
    ("worker", false, .nullable (.count UInt32.size))]

def mountShape : Shape :=
  .record [("claim_name", true, .text), ("mount_path", true, .text),
    ("sub_path", false, .nullable .text), ("read_only", false, .truth)]

def envShape : Shape :=
  .record [("name", true, .text), ("value", true, .text)]

def resourcesShape : Shape :=
  .record [("cpu", false, .nullable .text), ("memory", false, .nullable .text),
    ("gpu", false, .nullable (.count UInt64.size))]

/-- The form of a workload request. -/
def requestShape : Shape :=
  .record [
    ("kind", true, .variants ["session", "training_job", "serving_deployment"]),
    ("name", true, .text),
    ("namespace", false, .text),
    ("owner", true, .text),
    ("image", false, .text),
    ("resources", false, resourcesShape),
    ("replicas", false, replicasShape),
    ("command", false, .list .text),
    ("args", false, .list .text),
    ("mounts", false, .list mountShape),
    ("ports", false, .list (.count UInt16.size)),
    ("env", false, .list envShape),
    ("node_selector", false, .texts),
    ("labels", false, .texts),
    ("restart_policy", false, .nullable .text),
    ("image_pull_policy", false, .nullable .text)]

theorem judges_kind : Judges WorkloadKind.ofDocument?
    (.variants ["session", "training_job", "serving_deployment"]) := by
  refine judges_variants fun d => ?_
  unfold WorkloadKind.ofDocument?
  split <;> simp_all

theorem judges_replicas : Judges ReplicaCounts.ofDocument? replicasShape := by
  refine judges_record (fun _ => rfl) fun fields j agrees => ?_
  refine isSome_step (agrees.optional (by simp) judges_uint32) fun _ => ?_
  refine isSome_step (agrees.optional (by simp) judges_uint32) fun _ => ?_
  exact isSome_done _

theorem judges_mount : Judges MountSpec.ofDocument? mountShape := by
  refine judges_record (fun _ => rfl) fun fields j agrees => ?_
  refine isSome_step (agrees.required (by simp) judges_text) fun _ => ?_
  refine isSome_step (agrees.required (by simp) judges_text) fun _ => ?_
  refine isSome_step (agrees.optional (by simp) judges_text) fun _ => ?_
  refine isSome_step (agrees.withDefault (by simp) judges_truth false) fun _ => ?_
  exact isSome_done _

theorem judges_env : Judges EnvVar.ofDocument? envShape := by
  refine judges_record (fun _ => rfl) fun fields j agrees => ?_
  refine isSome_step (agrees.required (by simp) judges_text) fun _ => ?_
  refine isSome_step (agrees.required (by simp) judges_text) fun _ => ?_
  exact isSome_done _

theorem judges_resources : Judges ResourceTexts.ofDocument? resourcesShape := by
  refine judges_record (fun _ => rfl) fun fields j agrees => ?_
  refine isSome_step (agrees.optional (by simp) judges_text) fun _ => ?_
  refine isSome_step (agrees.optional (by simp) judges_text) fun _ => ?_
  refine isSome_step (agrees.optional (by simp) judges_uint64) fun _ => ?_
  exact isSome_done _

/-- The reader of requests accepts exactly the values that have the form of a request. -/
theorem judges_request : Judges WorkloadRequest.ofDocument? requestShape := by
  refine judges_record (fun _ => rfl) fun fields j agrees => ?_
  refine isSome_step (agrees.required (by simp) judges_kind) fun _ => ?_
  refine isSome_step (agrees.required (by simp) judges_text) fun _ => ?_
  refine isSome_step (agrees.withDefault (by simp) judges_text _) fun _ => ?_
  refine isSome_step (agrees.required (by simp) judges_text) fun _ => ?_
  refine isSome_step (agrees.withDefault (by simp) judges_text _) fun _ => ?_
  refine isSome_step (agrees.withDefault (by simp) judges_resources _) fun _ => ?_
  refine isSome_step (agrees.withDefault (by simp) judges_replicas _) fun _ => ?_
  refine isSome_step (agrees.withDefault (by simp) (judges_list judges_text) _) fun _ => ?_
  refine isSome_step (agrees.withDefault (by simp) (judges_list judges_text) _) fun _ => ?_
  refine isSome_step (agrees.withDefault (by simp) (judges_list judges_mount) _) fun _ => ?_
  refine isSome_step (agrees.withDefault (by simp) (judges_list judges_uint16) _) fun _ => ?_
  refine isSome_step (agrees.withDefault (by simp) (judges_list judges_env) _) fun _ => ?_
  refine isSome_step (agrees.withDefault (by simp) judges_texts _) fun _ => ?_
  refine isSome_step (agrees.withDefault (by simp) judges_texts _) fun _ => ?_
  refine isSome_step (agrees.optional (by simp) judges_text) fun _ => ?_
  refine isSome_step (agrees.optional (by simp) judges_text) fun _ => ?_
  exact isSome_done _

/-- A request that is accepted is read back from its JSON form, and a JSON value is refused exactly
if it does not have the form of a request. -/
theorem request_roundTrip (j : Json) :
    (∀ r, WorkloadRequest.ofJson? j = some r → WorkloadRequest.ofJson? r.toJson = some r) ∧
      (Unambiguous j → (WorkloadRequest.ofJson? j = none ↔ Misfit requestShape j)) := by
  constructor
  · intro r accepted
    obtain ⟨selector, labels⟩ := request_sorted accepted
    exact request_reads_back r selector labels _ (states_ofJson r.toJson)
  · intro unambiguous
    rw [← Option.not_isSome_iff_eq_none, WorkloadRequest.ofJson?, judges_request j unambiguous,
      not_not]

/-- A request with a member that is no field. -/
def notedRequest : Json :=
  .object [("kind", .string "session"), ("name", .string "lab"), ("note", .null),
    ("owner", .string "alice"), ("restart_policy", .null)]

/-- The first two fields of a request, in order. -/
def shortRequest : Json := .array [.string "session", .string "lab"]

/-- A member that is no field does no harm, and an array that ends before the owner is refused. -/
theorem request_roundTrip_noted :
    (∃ r, WorkloadRequest.ofJson? notedRequest = some r ∧
      WorkloadRequest.ofJson? r.toJson = some r) ∧
      Unambiguous notedRequest ∧ ¬Misfit requestShape notedRequest ∧
      Unambiguous shortRequest ∧ Misfit requestShape shortRequest := by
  have accepted : (WorkloadRequest.ofJson? notedRequest).isSome = true := by decide
  have refused : WorkloadRequest.ofJson? shortRequest = none := by decide
  have noted : Unambiguous notedRequest := by
    refine .object (by decide) ?_
    simp only [List.forall_mem_cons]
    exact ⟨.string _, .string _, .null, .string _, .null, List.forall_mem_nil _⟩
  have short : Unambiguous shortRequest := by
    refine .array ?_
    simp only [List.forall_mem_cons]
    exact ⟨.string _, .string _, List.forall_mem_nil _⟩
  obtain ⟨r, hr⟩ := Option.isSome_iff_exists.mp accepted
  obtain ⟨again, misfit⟩ := request_roundTrip notedRequest
  refine ⟨⟨r, hr, again r hr⟩, noted, fun h => ?_, short, ?_⟩
  · rw [(misfit noted).mpr h] at hr
    cases hr
  · exact ((request_roundTrip shortRequest).2 short).mp refused

end ClusterProvisioning.Proofs
