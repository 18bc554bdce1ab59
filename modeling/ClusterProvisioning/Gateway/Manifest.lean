import ClusterProvisioning.Json.Path

/-!
# Manifests

The parts of a manifest that a cluster looks at by itself: the name of the object, and the ports of
a service.
-/

namespace ClusterProvisioning.Manifest

/-- The name that a manifest gives its object. -/
def name? (manifest : Json) : Option String :=
  (manifest.at? ["metadata", "name"]).bind Json.text?

/-- Whether the manifest asks for ports on the nodes. -/
def wantsNodePorts (manifest : Json) : Bool :=
  (manifest.at? ["spec", "type"]).bind Json.text? == some "NodePort"

/-- The manifest placed in a namespace, if it has metadata to say so. -/
def placedIn (ns : String) (manifest : Json) : Json :=
  manifest.modifyAt (fun metadata => metadata.withMember "namespace" (.string ns)) ["metadata"]

end ClusterProvisioning.Manifest
