import ClusterProvisioning.Proofs.PlanContainers

/-!
# The manifests of a plan

Applying a plan deletes a unit by its identity and creates it from its manifest, so the two have to
agree; and a pod starts only if each mount of its containers names a volume. Both hold of every plan
that is built, whatever the request mounts (`plan_wellFormed`). The names of requested volumes carry
their position, which is why they are distinct from one another and from the fixed ones.
-/

namespace ClusterProvisioning.Proofs
open Plan

/-- The name in a volume or in a mount of a container. -/
def entryName (entry : Json) : Option Json := entry.at? ["name"]

/-- The volumes in a specification of pods. -/
def podVolumes (spec : Json) : List Json := ((spec.at? ["volumes"]).bind Json.items?).getD []

/-- The mounts of a container. -/
def containerMounts (container : Json) : List Json :=
  ((container.at? ["volumeMounts"]).bind Json.items?).getD []

/-- The manifest describes the object that the unit stands for, and undoing the unit deletes that
object. -/
structure UnitForm (u : PlanUnit) : Prop where
  name : u.manifest.at? ["metadata", "name"] = some (.string u.name)
  ns : u.manifest.at? ["metadata", "namespace"] = some (.string u.ns)
  apiVersion : u.manifest.at? ["apiVersion"] = some (.string u.kind.apiVersion)
  kind : u.manifest.at? ["kind"] = some (.string u.kind.name)
  undo : u.rollback = some u.ref

/-- The volumes of a specification of pods have names of their own, each mount of a container names
one of them, and each requested mount is among those of every container. -/
structure PodForm (requested : List MountSpec) (spec : Json) : Prop where
  named : ∀ volume ∈ podVolumes spec, ∃ name, entryName volume = some (.string name)
  distinct : ((podVolumes spec).map entryName).Nodup
  declared : ∀ container ∈ podContainers spec, ∀ mount ∈ containerMounts container,
    ∃ volume ∈ podVolumes spec, entryName mount = entryName volume
  mounted : ∀ container ∈ podContainers spec, ∀ m ∈ requested,
    ∃ name, claimVolume name m.claimName ∈ podVolumes spec ∧
      ∃ mount ∈ containerMounts container, entryName mount = some (.string name) ∧
        mount.at? ["mountPath"] = some (.string m.mountPath)

/-- The units have identities of their own, and their manifests and pods are as they have to be. -/
structure WellFormed (requested : List MountSpec) (plan : Plan) : Prop where
  distinct : (plan.units.map PlanUnit.ref).Nodup
  units : ∀ u ∈ plan.units, UnitForm u
  pods : ∀ u ∈ plan.units, ∀ spec ∈ podSpecs u.manifest, PodForm requested spec

/-! ### Requested mounts -/

theorem mountVolumeName_toList (i : Nat) :
    (mountVolumeName i).toList = "mount-".toList ++ Nat.toDigits 10 i := by
  simp [mountVolumeName, String.toList_append, Nat.repr_eq_ofList_toDigits, toString]

theorem mountVolumeName_injective {i k : Nat} (h : mountVolumeName i = mountVolumeName k) :
    i = k := by
  have hdigits : Nat.toDigits 10 i = Nat.toDigits 10 k := by
    have hchars := congrArg String.toList h
    rw [mountVolumeName_toList, mountVolumeName_toList] at hchars
    exact List.append_cancel_left hchars
  rw [← Nat.ofDigitChars_ten_toDigits (n := i), hdigits, Nat.ofDigitChars_ten_toDigits]

/-- Only names that begin as `mount` does can be names of requested volumes. -/
theorem mountVolumeName_ne (i : Nat) {name : String} (h : name.toList.head? ≠ some 'm') :
    mountVolumeName i ≠ name := by
  rintro rfl
  apply h
  rw [mountVolumeName_toList]
  rfl

theorem entryName_mountVolumes (i : Nat) (requested : List MountSpec) :
    (mountVolumes i requested).map entryName =
      (List.range' i requested.length).map fun k => some (.string (mountVolumeName k)) := by
  induction requested generalizing i with
  | nil => rfl
  | cons m rest ih =>
    simp only [mountVolumes, List.map_cons, List.length_cons, List.range'_succ, ih]
    rfl

theorem entryName_volumeMounts (i : Nat) (requested : List MountSpec) :
    (volumeMounts i requested).map entryName = (mountVolumes i requested).map entryName := by
  induction requested generalizing i with
  | nil => rfl
  | cons m rest ih =>
    simp only [volumeMounts, mountVolumes, List.map_cons, ih]
    rfl

/-- Each requested mount has a volume and a mount of one name. -/
theorem requested_mounted (i : Nat) {requested : List MountSpec} {m : MountSpec}
    (hm : m ∈ requested) :
    ∃ name, claimVolume name m.claimName ∈ mountVolumes i requested ∧
      ∃ mount ∈ volumeMounts i requested, entryName mount = some (.string name) ∧
        mount.at? ["mountPath"] = some (.string m.mountPath) := by
  induction requested generalizing i with
  | nil => exact absurd hm List.not_mem_nil
  | cons first rest ih =>
    rcases List.mem_cons.mp hm with rfl | hm
    · exact ⟨mountVolumeName i, List.mem_cons_self, _, List.mem_cons_self, rfl, rfl⟩
    · obtain ⟨name, hvolume, mount, hmount, hname, hpath⟩ := ih (i + 1) hm
      exact ⟨name, List.mem_cons_of_mem _ hvolume, mount, List.mem_cons_of_mem _ hmount, hname,
        hpath⟩

/-- Requested volumes after fixed ones have names of their own if the fixed ones have, and none of
these begins as the names of requested ones do. -/
theorem volumes_distinct {fixed : List Json} {names : List String} (requested : List MountSpec)
    (fixedNames : fixed.map entryName = names.map fun name => some (.string name))
    (distinct : names.Nodup) (other : ∀ name ∈ names, name.toList.head? ≠ some 'm') :
    ((fixed ++ mountVolumes 0 requested).map entryName).Nodup := by
  have hfixed : (names.map fun name => some (Json.string name)).Nodup := by
    apply distinct.map
    intro a b h
    exact Json.string.inj (Option.some.inj h)
  have hrequested : ((mountVolumes 0 requested).map entryName).Nodup := by
    rw [entryName_mountVolumes]
    apply List.Nodup.map _ List.nodup_range'
    intro a b h
    exact mountVolumeName_injective (Json.string.inj (Option.some.inj h))
  rw [List.map_append, fixedNames, List.nodup_append]
  refine ⟨hfixed, hrequested, ?_⟩
  intro a ha b hb hab
  obtain ⟨name, hname, rfl⟩ := List.mem_map.mp ha
  rw [entryName_mountVolumes] at hb
  obtain ⟨k, -, hk⟩ := List.mem_map.mp hb
  have hsame : mountVolumeName k = name := Json.string.inj (Option.some.inj (hk.trans hab.symm))
  exact mountVolumeName_ne k (other name hname) hsame

/-! ### Specifications of pods -/

/-- A specification whose volumes are some fixed ones and the requested ones, and whose containers
mount volumes of the same names, the requested ones last. -/
theorem podForm_of_mounts {requested : List MountSpec} {spec : Json} {fixed : List Json}
    {names : List String} (volumes : podVolumes spec = fixed ++ mountVolumes 0 requested)
    (fixedNames : fixed.map entryName = names.map fun name => some (.string name))
    (distinct : names.Nodup) (other : ∀ name ∈ names, name.toList.head? ≠ some 'm')
    (mounts : ∀ container ∈ podContainers spec, ∃ own : List Json,
      own.map entryName = fixed.map entryName ∧
        containerMounts container = own ++ volumeMounts 0 requested) :
    PodForm requested spec where
  named := by
    intro volume hvolume
    have hname : entryName volume ∈ (podVolumes spec).map entryName := List.mem_map_of_mem hvolume
    rw [volumes, List.map_append, fixedNames, entryName_mountVolumes, List.mem_append] at hname
    rcases hname with h | h
    · obtain ⟨name, -, hname⟩ := List.mem_map.mp h
      exact ⟨name, hname.symm⟩
    · obtain ⟨k, -, hname⟩ := List.mem_map.mp h
      exact ⟨mountVolumeName k, hname.symm⟩
  distinct := by
    rw [volumes]
    exact volumes_distinct requested fixedNames distinct other
  declared := by
    intro container hcontainer mount hmount
    obtain ⟨own, hown, hmounts⟩ := mounts container hcontainer
    have hsame : (containerMounts container).map entryName = (podVolumes spec).map entryName := by
      rw [hmounts, volumes, List.map_append, List.map_append, hown, entryName_volumeMounts]
    have hname : entryName mount ∈ (podVolumes spec).map entryName := by
      rw [← hsame]
      exact List.mem_map_of_mem hmount
    obtain ⟨volume, hvolume, h⟩ := List.mem_map.mp hname
    exact ⟨volume, hvolume, h.symm⟩
  mounted := by
    intro container hcontainer m hm
    obtain ⟨own, -, hmounts⟩ := mounts container hcontainer
    obtain ⟨name, hvolume, mount, hmount, hname, hpath⟩ := requested_mounted 0 hm
    refine ⟨name, ?_, mount, ?_, hname, hpath⟩
    · rw [volumes]
      exact List.mem_append_right _ hvolume
    · rw [hmounts]
      exact List.mem_append_right _ hmount

/-- A specification without containers and volumes is none of pods. -/
theorem podForm_empty (requested : List MountSpec) {spec : Json} (volumes : podVolumes spec = [])
    (containers : podContainers spec = []) : PodForm requested spec where
  named := by simp [volumes]
  distinct := by simp [volumes]
  declared := by simp [containers]
  mounted := by simp [containers]

theorem podForm_session (config : SessionConfig) (request : WorkloadRequest) (image : String)
    (resources : ContainerResources) (id : Session.Identity) :
    ∀ spec ∈ podSpecs (Session.pod config request image resources id),
      PodForm request.mounts spec := by
  intro spec hspec
  -- Optional fields stand before the volumes, so the specification is looked at with and without.
  have hfields : podVolumes spec = Session.volumes config request ∧
      podContainers spec = [Session.container config request image resources id] := by
    unfold Session.pod at hspec
    cases hsecret : config.imagePullSecret <;> cases hscheduler : config.schedulerName <;>
      rw [hsecret, hscheduler] at hspec <;> obtain rfl := List.mem_singleton.mp hspec <;>
      exact ⟨rfl, rfl⟩
  obtain ⟨hvolumes, hcontainers⟩ := hfields
  have hnames : ∀ name ∈ ["workspace", "archives", "tz-config", "dshm"],
      name.toList.head? ≠ some 'm' := by
    decide
  refine podForm_of_mounts hvolumes rfl (by decide) hnames ?_
  intro container hcontainer
  rw [hcontainers] at hcontainer
  obtain rfl := List.mem_singleton.mp hcontainer
  refine ⟨_, ?_, rfl⟩
  rfl

/-- A specification that has the requested volumes and one container with the requested mounts. -/
theorem podForm_requested {requested : List MountSpec} {spec container : Json}
    (volumes : podVolumes spec = mountVolumes 0 requested)
    (containers : podContainers spec = [container])
    (mounts : containerMounts container = volumeMounts 0 requested) : PodForm requested spec := by
  have hnames : ([] : List Json).map entryName = ([] : List String).map fun name =>
      some (.string name) := rfl
  have hother : ∀ name ∈ ([] : List String), name.toList.head? ≠ some 'm' := by simp
  refine podForm_of_mounts volumes hnames List.nodup_nil hother ?_
  intro other hother
  rw [containers] at hother
  obtain rfl := List.mem_singleton.mp hother
  exact ⟨[], rfl, mounts⟩

theorem podForm_deployment (config : ServingConfig) (request : WorkloadRequest)
    (image name ns : String) (resources : ContainerResources) (labels : Table String) :
    ∀ spec ∈ podSpecs (Serving.deployment config request image name ns resources labels),
      PodForm request.mounts spec := by
  intro spec hspec
  -- The deployment has a specification of its own above that of its pods.
  rcases List.mem_cons.mp hspec with rfl | hspec
  · exact podForm_empty request.mounts rfl rfl
  · obtain rfl := List.mem_singleton.mp hspec
    exact podForm_requested rfl rfl rfl

theorem containerMounts_training (config : TrainingConfig) (request : WorkloadRequest)
    (image : String) (resources : ContainerResources) :
    containerMounts (Training.container config request image resources) =
      volumeMounts 0 request.mounts := by
  unfold Training.container
  split <;> split <;> rfl

theorem podForm_job (config : TrainingConfig) (request : WorkloadRequest)
    (image name ns : String) (resources : ContainerResources) (labels : Table String) :
    ∀ spec ∈ podSpecs (Training.job config request image name ns resources labels),
      PodForm request.mounts spec := by
  intro spec hspec
  have hmounts := containerMounts_training config request image resources
  rcases List.mem_cons.mp hspec with rfl | hspec
  · exact podForm_empty request.mounts rfl rfl
  · rcases List.mem_cons.mp hspec with rfl | hspec
    · exact podForm_requested rfl rfl hmounts
    · obtain rfl := List.mem_singleton.mp hspec
      exact podForm_requested rfl rfl hmounts

/-! ### Plans -/

/-- A unit whose manifest is written for its own kind, name and namespace, whatever happens when it
is not created. -/
theorem unitForm_of (kind : Kind) (ns name : String) (labels : Table String) (spec : Json)
    (policy : FailurePolicy) :
    UnitForm { PlanUnit.of kind ns name (manifestOf kind name ns labels spec) with
      onFailure := policy } where
  name := rfl
  ns := rfl
  apiVersion := rfl
  kind := rfl
  undo := rfl

theorem wellFormed_assemble (config : SessionConfig) (request : WorkloadRequest) (image : String)
    (resources : ContainerResources) (id : Session.Identity) :
    WellFormed request.mounts (Session.assemble config request image resources id) where
  distinct := (planForm_assemble config request image resources id).distinct
  units := by
    intro u hu
    simp only [Session.assemble, List.mem_cons, List.not_mem_nil, or_false] at hu
    rcases hu with rfl | rfl | rfl
    · exact unitForm_of _ _ _ _ _ .rollBackCreated
    · exact unitForm_of _ _ _ _ _ .rollBackCreated
    · exact unitForm_of _ _ _ _ _ _
  pods := by
    intro u hu spec hspec
    simp only [Session.assemble, List.mem_cons, List.not_mem_nil, or_false] at hu
    rcases hu with rfl | rfl | rfl
    · exact podForm_session config request image resources id spec hspec
    · obtain rfl := List.mem_singleton.mp hspec
      exact podForm_empty request.mounts rfl rfl
    · obtain rfl := List.mem_singleton.mp hspec
      exact podForm_empty request.mounts rfl rfl

/-- Every plan that is built is well formed, whatever kind of workload it is for and whatever the
request mounts. -/
theorem plan_wellFormed (config : Config) (request : WorkloadRequest) (suffix : String)
    (plan : Plan) (built : Plan.build config request suffix = .ok plan) :
    WellFormed request.mounts plan := by
  have form := planForm_of_build built
  have hbuilt := mapError_ok.mp built
  cases hkind : request.kind with
  | session =>
    rw [hkind] at hbuilt
    obtain ⟨image, resources, owner, -, -, -, -, rfl⟩ := session_build_ok.mp hbuilt
    exact wellFormed_assemble _ request image resources _
  | servingDeployment =>
    rw [hkind] at hbuilt
    obtain ⟨image, resources, name, -, -, -, rfl⟩ := serving_build_ok.mp hbuilt
    refine ⟨form.distinct, ?_, ?_⟩
    · intro u hu
      simp only [List.mem_cons, List.not_mem_nil, or_false] at hu
      rcases hu with rfl | rfl
      · exact unitForm_of _ _ _ _ _ .rollBackCreated
      · exact unitForm_of _ _ _ _ _ .rollBackCreated
    · intro u hu spec hspec
      simp only [List.mem_cons, List.not_mem_nil, or_false] at hu
      rcases hu with rfl | rfl
      · exact podForm_deployment _ request _ _ _ _ _ spec hspec
      · obtain rfl := List.mem_singleton.mp hspec
        exact podForm_empty request.mounts rfl rfl
  | trainingJob =>
    rw [hkind] at hbuilt
    obtain ⟨image, resources, name, labels, -, -, -, -, rfl⟩ := training_build_ok.mp hbuilt
    refine ⟨form.distinct, ?_, ?_⟩
    · intro u hu
      obtain rfl := List.mem_singleton.mp hu
      exact unitForm_of _ _ _ _ _ .rollBackCreated
    · intro u hu spec hspec
      obtain rfl := List.mem_singleton.mp hu
      exact podForm_job _ request _ _ _ _ _ spec hspec

/-- A session that mounts one claim twice. -/
def mountingRequest : WorkloadRequest :=
  { claimingRequest with
    mounts := [⟨"data", "/data", none, true⟩, ⟨"data", "/raw", some "raw", false⟩] }

theorem plan_wellFormed_one_claim_twice :
    ∃ plan, Plan.build .standard mountingRequest "1a2b3" = .ok plan ∧
      WellFormed mountingRequest.mounts plan := by
  have builds : (Plan.build .standard mountingRequest "1a2b3").isOk = true := by decide +kernel
  obtain ⟨plan, built⟩ := exists_of_isOk builds
  exact ⟨plan, built, plan_wellFormed .standard mountingRequest "1a2b3" plan built⟩

end ClusterProvisioning.Proofs
