import ClusterProvisioning.Gateway.Schema.Volume

/-!
# The schema of pods

What an API server says of a pod: its containers, where it may run, and how it is.
-/

namespace ClusterProvisioning.Schema

/-! ### Containers -/

/-- A value under a key of another object. -/
def keyReference : Schema := ofFields (texts ["key", "name"] ++ flags ["optional"])

def environmentVariable : Schema :=
  ofFields (texts ["name", "value"]
    ++ [("valueFrom", ofFields [("configMapKeyRef", keyReference), ("fieldRef", podField),
      ("resourceFieldRef", resourceField), ("secretKeyRef", keyReference)])])

/-- Environment variables from all keys of another object. -/
def environmentSource : Schema :=
  let source := ofFields (texts ["name"] ++ flags ["optional"])
  ofFields (texts ["prefix"] ++ [("configMapRef", source), ("secretRef", source)])

def command : Schema := ofFields (textLists ["command"])

def webRequest : Schema :=
  ofFields (texts ["host", "path", "scheme"]
    ++ [("httpHeaders", .list (ofFields (texts ["name", "value"]))), ("port", .port)])

def socket : Schema := ofFields (texts ["host"] ++ [("port", .port)])

/-- The ways to ask something of a container. -/
def handlers : FieldTypes :=
  [("exec", command), ("httpGet", webRequest), ("tcpSocket", socket)]

def probe : Schema :=
  ofFields (handlers
    ++ int32s ["failureThreshold", "initialDelaySeconds", "periodSeconds", "successThreshold",
      "timeoutSeconds"]
    ++ int64s ["terminationGracePeriodSeconds"]
    ++ [("grpc", ofFields (texts ["service"] ++ int32s ["port"]))])

def containerPort : Schema :=
  ofFields (texts ["hostIP", "name", "protocol"] ++ int32s ["containerPort", "hostPort"])

/-- What pods and containers both say of security. -/
def commonSecurity : FieldTypes :=
  int64s ["runAsGroup", "runAsUser"] ++ flags ["runAsNonRoot"]
    ++ [("seLinuxOptions", ofFields (texts ["level", "role", "type", "user"])),
      ("seccompProfile", ofFields (texts ["localhostProfile", "type"])),
      ("windowsOptions",
        ofFields (texts ["gmsaCredentialSpec", "gmsaCredentialSpecName", "runAsUserName"]
          ++ flags ["hostProcess"]))]

def containerSecurity : Schema :=
  ofFields (commonSecurity ++ texts ["procMount"]
    ++ flags ["allowPrivilegeEscalation", "privileged", "readOnlyRootFilesystem"]
    ++ [("capabilities", ofFields (textLists ["add", "drop"]))])

def volumeMount : Schema :=
  ofFields (texts ["mountPath", "mountPropagation", "name", "subPath", "subPathExpr"]
    ++ flags ["readOnly"])

/-- The fields of a container. -/
def containerFields : FieldTypes :=
  texts ["image", "imagePullPolicy", "name", "restartPolicy", "terminationMessagePath",
      "terminationMessagePolicy", "workingDir"]
    ++ textLists ["args", "command"] ++ flags ["stdin", "stdinOnce", "tty"]
    ++ each probe ["livenessProbe", "readinessProbe", "startupProbe"]
    ++ [("env", .list environmentVariable), ("envFrom", .list environmentSource),
      ("lifecycle", ofFields (each (ofFields handlers) ["postStart", "preStop"])),
      ("ports", .list containerPort),
      ("resizePolicy", .list (ofFields (texts ["resourceName", "restartPolicy"]))),
      ("resources", resourceRequirements), ("securityContext", containerSecurity),
      ("volumeDevices", .list (ofFields (texts ["devicePath", "name"]))),
      ("volumeMounts", .list volumeMount)]

def container : Schema := ofFields containerFields

/-- A container that is added to a running pod. -/
def ephemeralContainer : Schema := ofFields (texts ["targetContainerName"] ++ containerFields)

/-! ### Placement -/

def nodeSelectorTerm : Schema :=
  ofFields (each (.list requirement) ["matchExpressions", "matchFields"])

def nodeAffinity : Schema :=
  ofFields [
    ("preferredDuringSchedulingIgnoredDuringExecution",
      .list (ofFields (int32s ["weight"] ++ [("preference", nodeSelectorTerm)]))),
    ("requiredDuringSchedulingIgnoredDuringExecution",
      ofFields [("nodeSelectorTerms", .list nodeSelectorTerm)])]

def podAffinityTerm : Schema :=
  ofFields (texts ["topologyKey"] ++ textLists ["namespaces"]
    ++ each labelSelector ["labelSelector", "namespaceSelector"])

def podAffinity : Schema :=
  ofFields [
    ("preferredDuringSchedulingIgnoredDuringExecution",
      .list (ofFields (int32s ["weight"] ++ [("podAffinityTerm", podAffinityTerm)]))),
    ("requiredDuringSchedulingIgnoredDuringExecution", .list podAffinityTerm)]

def affinity : Schema :=
  ofFields [("nodeAffinity", nodeAffinity), ("podAffinity", podAffinity),
    ("podAntiAffinity", podAffinity)]

def toleration : Schema :=
  ofFields (texts ["effect", "key", "operator", "value"] ++ int64s ["tolerationSeconds"])

def spreadConstraint : Schema :=
  ofFields (texts ["nodeAffinityPolicy", "nodeTaintsPolicy", "topologyKey", "whenUnsatisfiable"]
    ++ textLists ["matchLabelKeys"] ++ int32s ["maxSkew", "minDomains"]
    ++ [("labelSelector", labelSelector)])

/-! ### Pods -/

def podSecurity : Schema :=
  ofFields (commonSecurity ++ texts ["fsGroupChangePolicy"] ++ int64s ["fsGroup"]
    ++ [("supplementalGroups", .list (.integer 64)),
      ("sysctls", .list (ofFields (texts ["name", "value"])))])

def nameResolution : Schema :=
  ofFields (textLists ["nameservers", "searches"]
    ++ [("options", .list (ofFields (texts ["name", "value"])))])

def podSpec : Schema :=
  ofFields (texts ["dnsPolicy", "hostname", "nodeName", "preemptionPolicy", "priorityClassName",
      "restartPolicy", "runtimeClassName", "schedulerName", "serviceAccount",
      "serviceAccountName", "subdomain"]
    ++ int64s ["activeDeadlineSeconds", "terminationGracePeriodSeconds"] ++ int32s ["priority"]
    ++ flags ["automountServiceAccountToken", "enableServiceLinks", "hostIPC", "hostNetwork",
      "hostPID", "hostUsers", "setHostnameAsFQDN", "shareProcessNamespace"]
    ++ textMaps ["nodeSelector"] ++ amounts ["overhead"]
    ++ each (.list container) ["containers", "initContainers"]
    ++ [("affinity", affinity), ("dnsConfig", nameResolution),
      ("ephemeralContainers", .list ephemeralContainer),
      ("hostAliases", .list (ofFields (texts ["ip"] ++ textLists ["hostnames"]))),
      ("imagePullSecrets", .list nameReference), ("os", ofFields (texts ["name"])),
      ("readinessGates", .list (ofFields (texts ["conditionType"]))),
      ("resourceClaims", .list (ofFields (texts ["name"]
        ++ [("source", ofFields (texts ["resourceClaimName", "resourceClaimTemplateName"]))]))),
      ("schedulingGates", .list (ofFields (texts ["name"]))), ("securityContext", podSecurity),
      ("tolerations", .list toleration),
      ("topologySpreadConstraints", .list spreadConstraint), ("volumes", .list volume)])

def podCondition : Schema :=
  ofFields (texts ["message", "reason", "status", "type"]
    ++ times ["lastProbeTime", "lastTransitionTime"])

def containerState : Schema :=
  ofFields [("running", ofFields (times ["startedAt"])),
    ("terminated", ofFields (texts ["containerID", "message", "reason"]
      ++ int32s ["exitCode", "signal"] ++ times ["finishedAt", "startedAt"])),
    ("waiting", ofFields (texts ["message", "reason"]))]

def containerStatus : Schema :=
  ofFields (texts ["containerID", "image", "imageID", "name"] ++ flags ["ready", "started"]
    ++ int32s ["restartCount"] ++ amounts ["allocatedResources"]
    ++ each containerState ["lastState", "state"] ++ [("resources", resourceRequirements)])

def podStatus : Schema :=
  ofFields (texts ["hostIP", "message", "nominatedNodeName", "phase", "podIP", "qosClass",
      "reason", "resize"]
    ++ times ["startTime"]
    ++ each (.list containerStatus)
      ["containerStatuses", "ephemeralContainerStatuses", "initContainerStatuses"]
    ++ each (.list (ofFields (texts ["ip"]))) ["hostIPs", "podIPs"]
    ++ [("conditions", .list podCondition),
      ("resourceClaimStatuses", .list (ofFields (texts ["name", "resourceClaimName"])))])

def pod : Schema :=
  ofFields [("apiVersion", .exactly "v1"), ("kind", .exactly "Pod"), ("metadata", metadata),
    ("spec", podSpec), ("status", podStatus)]

end ClusterProvisioning.Schema
