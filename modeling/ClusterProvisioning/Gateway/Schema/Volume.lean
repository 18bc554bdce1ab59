import ClusterProvisioning.Gateway.Schema

/-!
# The schema of volumes

What a pod may mount, one field for each sort of source.
-/

namespace ClusterProvisioning.Schema

/-! ### References and selectors -/

/-- A reference to an object by its name. -/
def nameReference : Schema := ofFields (texts ["name"])

/-- A field of the pod itself. -/
def podField : Schema := ofFields (texts ["apiVersion", "fieldPath"])

/-- A resource of a container of the pod. -/
def resourceField : Schema := ofFields (texts ["containerName", "divisor", "resource"])

/-- Conditions on keys and their values. -/
def requirement : Schema := ofFields (texts ["key", "operator"] ++ textLists ["values"])

def labelSelector : Schema :=
  ofFields (textMaps ["matchLabels"] ++ [("matchExpressions", .list requirement)])

/-- What is asked of resources. -/
def resourceRequirements : Schema :=
  ofFields (amounts ["limits", "requests"] ++ [("claims", .list (ofFields (texts ["name"])))])

/-! ### Files -/

/-- A key and the file that its value is put into. -/
def keyFile : Schema := ofFields (texts ["key", "path"] ++ int32s ["mode"])

/-- A file with something about the pod. -/
def podFile : Schema :=
  ofFields (texts ["path"] ++ int32s ["mode"]
    ++ [("fieldRef", podField), ("resourceFieldRef", resourceField)])

/-- Files from an object that holds keys and values. -/
def keyFiles (nameField : String) (more : FieldTypes) : Schema :=
  ofFields (texts [nameField] ++ flags ["optional"] ++ [("items", .list keyFile)] ++ more)

def projection : Schema :=
  ofFields [("configMap", keyFiles "name" []), ("secret", keyFiles "name" []),
    ("downwardAPI", ofFields [("items", .list podFile)]),
    ("serviceAccountToken",
      ofFields (texts ["audience", "path"] ++ int64s ["expirationSeconds"]))]

/-! ### Claims -/

def claimSpec : Schema :=
  ofFields (texts ["storageClassName", "volumeMode", "volumeName"] ++ textLists ["accessModes"]
    ++ [("dataSource", ofFields (texts ["apiGroup", "kind", "name"])),
      ("dataSourceRef", ofFields (texts ["apiGroup", "kind", "name", "namespace"])),
      ("resources", resourceRequirements), ("selector", labelSelector)])

def claimTemplate : Schema :=
  ofFields [("metadata", metadata), ("spec", claimSpec)]

/-! ### Volumes -/

/-- The sources that are disks of a cloud. -/
def cloudDisks : FieldTypes :=
  [("awsElasticBlockStore",
      ofFields (texts ["fsType", "volumeID"] ++ int32s ["partition"] ++ flags ["readOnly"])),
    ("azureDisk",
      ofFields (texts ["cachingMode", "diskName", "diskURI", "fsType", "kind"]
        ++ flags ["readOnly"])),
    ("cinder",
      ofFields (texts ["fsType", "volumeID"] ++ flags ["readOnly"]
        ++ [("secretRef", nameReference)])),
    ("gcePersistentDisk",
      ofFields (texts ["fsType", "pdName"] ++ int32s ["partition"] ++ flags ["readOnly"])),
    ("photonPersistentDisk", ofFields (texts ["fsType", "pdID"])),
    ("vsphereVolume",
      ofFields (texts ["fsType", "storagePolicyID", "storagePolicyName", "volumePath"]))]

/-- The sources that are reached over a network. -/
def networkSources : FieldTypes :=
  [("azureFile", ofFields (texts ["secretName", "shareName"] ++ flags ["readOnly"])),
    ("cephfs",
      ofFields (texts ["path", "secretFile", "user"] ++ textLists ["monitors"]
        ++ flags ["readOnly"] ++ [("secretRef", nameReference)])),
    ("fc",
      ofFields (texts ["fsType"] ++ int32s ["lun"] ++ flags ["readOnly"]
        ++ textLists ["targetWWNs", "wwids"])),
    ("flocker", ofFields (texts ["datasetName", "datasetUUID"])),
    ("gitRepo", ofFields (texts ["directory", "repository", "revision"])),
    ("glusterfs", ofFields (texts ["endpoints", "path"] ++ flags ["readOnly"])),
    ("iscsi",
      ofFields (texts ["fsType", "initiatorName", "iqn", "iscsiInterface", "targetPortal"]
        ++ flags ["chapAuthDiscovery", "chapAuthSession", "readOnly"] ++ int32s ["lun"]
        ++ textLists ["portals"] ++ [("secretRef", nameReference)])),
    ("nfs", ofFields (texts ["path", "server"] ++ flags ["readOnly"])),
    ("portworxVolume", ofFields (texts ["fsType", "volumeID"] ++ flags ["readOnly"])),
    ("quobyte",
      ofFields (texts ["group", "registry", "tenant", "user", "volume"] ++ flags ["readOnly"])),
    ("rbd",
      ofFields (texts ["fsType", "image", "keyring", "pool", "user"] ++ textLists ["monitors"]
        ++ flags ["readOnly"] ++ [("secretRef", nameReference)])),
    ("scaleIO",
      ofFields (texts ["fsType", "gateway", "protectionDomain", "storageMode", "storagePool",
          "system", "volumeName"]
        ++ flags ["readOnly", "sslEnabled"] ++ [("secretRef", nameReference)])),
    ("storageos",
      ofFields (texts ["fsType", "volumeName", "volumeNamespace"] ++ flags ["readOnly"]
        ++ [("secretRef", nameReference)]))]

/-- The sources that the cluster itself provides. -/
def clusterSources : FieldTypes :=
  [("configMap", keyFiles "name" (int32s ["defaultMode"])),
    ("csi",
      ofFields (texts ["driver", "fsType"] ++ flags ["readOnly"] ++ textMaps ["volumeAttributes"]
        ++ [("nodePublishSecretRef", nameReference)])),
    ("downwardAPI", ofFields (int32s ["defaultMode"] ++ [("items", .list podFile)])),
    ("emptyDir", ofFields (texts ["medium", "sizeLimit"])),
    ("ephemeral", ofFields [("volumeClaimTemplate", claimTemplate)]),
    ("flexVolume",
      ofFields (texts ["driver", "fsType"] ++ flags ["readOnly"] ++ textMaps ["options"]
        ++ [("secretRef", nameReference)])),
    ("hostPath", ofFields (texts ["path", "type"])),
    ("persistentVolumeClaim", ofFields (texts ["claimName"] ++ flags ["readOnly"])),
    ("projected", ofFields (int32s ["defaultMode"] ++ [("sources", .list projection)])),
    ("secret", keyFiles "secretName" (int32s ["defaultMode"]))]

def volume : Schema :=
  ofFields (texts ["name"] ++ cloudDisks ++ networkSources ++ clusterSources)

end ClusterProvisioning.Schema
