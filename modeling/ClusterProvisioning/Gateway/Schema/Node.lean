import ClusterProvisioning.Gateway.Schema

/-!
# The schema of nodes

What an API server says of a node: what it is for, and how it is.
-/

namespace ClusterProvisioning.Schema

/-- Where the configuration of a node comes from. -/
def nodeConfigSource : Schema :=
  ofFields [("configMap",
    ofFields (texts ["kubeletConfigKey", "name", "namespace", "resourceVersion", "uid"]))]

def taint : Schema :=
  ofFields (texts ["effect", "key", "value"] ++ times ["timeAdded"])

def nodeSpec : Schema :=
  ofFields (texts ["externalID", "podCIDR", "providerID"] ++ textLists ["podCIDRs"]
    ++ flags ["unschedulable"]
    ++ [("configSource", nodeConfigSource), ("taints", .list taint)])

def nodeCondition : Schema :=
  ofFields (texts ["message", "reason", "status", "type"]
    ++ times ["lastHeartbeatTime", "lastTransitionTime"])

def nodeConfigStatus : Schema :=
  ofFields (texts ["error"] ++ each nodeConfigSource ["active", "assigned", "lastKnownGood"])

def nodeInfo : Schema :=
  ofFields (texts ["architecture", "bootID", "containerRuntimeVersion", "kernelVersion",
    "kubeProxyVersion", "kubeletVersion", "machineID", "operatingSystem", "osImage", "systemUUID"])

def nodeStatus : Schema :=
  ofFields (texts ["phase"] ++ textLists ["volumesInUse"] ++ amounts ["allocatable", "capacity"]
    ++ [("addresses", .list (ofFields (texts ["address", "type"]))),
      ("conditions", .list nodeCondition), ("config", nodeConfigStatus),
      ("daemonEndpoints", ofFields [("kubeletEndpoint", ofFields (int32s ["Port"]))]),
      ("images", .list (ofFields (textLists ["names"] ++ int64s ["sizeBytes"]))),
      ("nodeInfo", nodeInfo),
      ("volumesAttached", .list (ofFields (texts ["devicePath", "name"])))])

def node : Schema :=
  ofFields [("apiVersion", .exactly "v1"), ("kind", .exactly "Node"), ("metadata", metadata),
    ("spec", nodeSpec), ("status", nodeStatus)]

end ClusterProvisioning.Schema
