import ClusterProvisioning.Yaml.Reader

/-!
# Cluster access files

A file that names clusters, users and contexts, each context a cluster with a user and a namespace.
The documents of one file are merged, where what comes first counts. Everything in the file must
have its type, also what a connection does not need.
-/

namespace ClusterProvisioning

open Document

/-- A certificate or a key, given in base64 or by the path of a file. -/
structure Material where
  data : Option String
  path : Option String
  deriving DecidableEq, Repr

/-- How to reach a cluster. -/
structure ClusterEntry where
  server : Option String
  skipsVerification : Bool
  proxy : Option String
  authority : Material
  deriving DecidableEq, Repr

/-- A provider of credentials, with its settings. -/
structure AuthProvider where
  name : String
  settings : Table String
  deriving DecidableEq, Repr

/-- The credentials of a user. -/
structure Credentials where
  username : Option String
  password : Option String
  token : Option String
  tokenPath : Option String
  certificate : Material
  key : Material
  /-- The user and the groups that requests are made for. -/
  impersonated : Option String
  impersonatedGroups : List String
  provider : Option AuthProvider
  /-- Whether a program on this machine gives the credentials. -/
  hasPlugin : Bool
  deriving DecidableEq, Repr

/-- Which cluster to use as which user. -/
structure ContextEntry where
  cluster : String
  user : String
  ns : Option String
  deriving DecidableEq, Repr

/-- A cluster access file; the content of a named entry may be missing. -/
structure Kubeconfig where
  kind : Option String
  apiVersion : Option String
  clusters : List (String × Option ClusterEntry)
  users : List (String × Option Credentials)
  contexts : List (String × Option ContextEntry)
  currentContext : Option String
  deriving DecidableEq, Repr

namespace Kubeconfig

def empty : Kubeconfig := ⟨none, none, [], [], [], none⟩

/-! ### Reading -/

variable {α : Type}

/-- A value, or a default where null stands for it. -/
def orEmpty (read : Document → Option α) (empty : α) (d : Document) : Option α :=
  (nullable? read d).map fun value => value.getD empty

mutual

/-- Whether the content of an extension can be stored: its entries are named, and it has no tags. -/
def isFree : Document → Bool
  | .sequence items => areFree items
  | .map entries => areFreeEntries entries
  | .tagged .. => false
  | _ => true

/-- Whether the items of a list can be stored. -/
def areFree : List Document → Bool
  | [] => true
  | d :: rest => isFree d && areFree rest

/-- Whether the entries of a map can be stored. -/
def areFreeEntries : List (Document × Document) → Bool
  | [] => true
  | (name, d) :: rest => name.string?.isSome && isFree d && areFreeEntries rest

end

/-- A list of named extensions, whose content is free. -/
def extensions? : Document → Option Unit :=
  fun d => (list? (fun e => do
    let fields ← e.fields? ["name", "extension"]
    let _ ← fields.required "name" string?
    fields.required "extension" fun content => if isFree content then some () else none) d).map
      fun _ => ()

/-- The preferences of a user interface. -/
def preferences? (d : Document) : Option Unit := do
  let fields ← d.fields? ["colors", "extensions"]
  let _ ← fields.optional "colors" bool?
  let _ ← fields.optional "extensions" extensions?

/-- A certificate or a key under a name, given in base64 if `-data` is added to that. -/
def material? (fields : Fields) (name : String) : Option Material := do
  return {
    data := ← fields.optional (name ++ "-data") string?
    path := ← fields.optional name string? }

def clusterEntry? (d : Document) : Option ClusterEntry := do
  let fields ← d.fields? ["server", "insecure-skip-tls-verify", "certificate-authority",
    "certificate-authority-data", "proxy-url", "tls-server-name", "extensions"]
  let _ ← fields.optional "tls-server-name" string?
  let _ ← fields.optional "extensions" extensions?
  return {
    server := ← fields.optional "server" string?
    skipsVerification := (← fields.optional "insecure-skip-tls-verify" bool?).getD false
    proxy := ← fields.optional "proxy-url" string?
    authority := ← material? fields "certificate-authority" }

def authProvider? (d : Document) : Option AuthProvider := do
  let fields ← d.fields? ["name", "config"]
  return {
    name := ← fields.required "name" string?
    settings := ← fields.withDefault "config" (orEmpty textTable? []) [] }

/-- When a program may ask the user something. -/
def interactiveMode? (d : Document) : Option Unit :=
  match d.word? with
  | some "Never" | some "IfAvailable" | some "Always" => some ()
  | _ => none

/-- A program that gives credentials. -/
def plugin? (d : Document) : Option Unit := do
  let fields ← d.fields? ["apiVersion", "command", "args", "env", "interactiveMode",
    "provideClusterInfo"]
  let _ ← fields.optional "apiVersion" string?
  let _ ← fields.optional "command" string?
  let _ ← fields.optional "args" (list? string?)
  let _ ← fields.optional "env" (list? (orEmpty textTable? []))
  let _ ← fields.optional "interactiveMode" interactiveMode?
  let _ ← fields.withDefault "provideClusterInfo" bool? false

def credentials? (d : Document) : Option Credentials := do
  let fields ← d.fields? ["username", "password", "token", "tokenFile", "client-certificate",
    "client-certificate-data", "client-key", "client-key-data", "as", "as-groups",
    "auth-provider", "exec"]
  return {
    username := ← fields.optional "username" string?
    password := ← fields.optional "password" string?
    token := ← fields.optional "token" string?
    tokenPath := ← fields.optional "tokenFile" string?
    certificate := ← material? fields "client-certificate"
    key := ← material? fields "client-key"
    impersonated := ← fields.optional "as" string?
    impersonatedGroups := (← fields.optional "as-groups" (list? string?)).getD []
    provider := ← fields.optional "auth-provider" authProvider?
    hasPlugin := (← fields.optional "exec" plugin?).isSome }

def contextEntry? (d : Document) : Option ContextEntry := do
  let fields ← d.fields? ["cluster", "user", "namespace", "extensions"]
  let _ ← fields.optional "extensions" extensions?
  return {
    cluster := ← fields.required "cluster" string?
    user := ← fields.required "user" string?
    ns := ← fields.optional "namespace" string? }

/-- An entry with a name, and its content under the name of the field. -/
def namedItem? (field : String) (read : Document → Option α) (d : Document) :
    Option (String × Option α) := do
  let fields ← d.fields? ["name", field]
  return (← fields.required "name" string?, ← fields.optional field read)

/-- A list of entries; null is an empty list. -/
def entries? (field : String) (read : Document → Option α) :
    Document → Option (List (String × Option α)) :=
  orEmpty (list? (namedItem? field read)) []

/-- The fields of an access file; null stands for an empty one. -/
def topFields? : Document → Option Fields
  | .null | .tagged _ .null => some []
  | d => d.fields? ["preferences", "clusters", "users", "contexts", "current-context",
      "extensions", "kind", "apiVersion"]

/-- The access file of a document. -/
def ofDocument? (d : Document) : Option Kubeconfig := do
  let fields ← topFields? d
  let _ ← fields.optional "preferences" preferences?
  let _ ← fields.optional "extensions" extensions?
  return {
    kind := ← fields.optional "kind" string?
    apiVersion := ← fields.optional "apiVersion" string?
    clusters := ← fields.withDefault "clusters" (entries? "cluster" clusterEntry?) []
    users := ← fields.withDefault "users" (entries? "user" credentials?) []
    contexts := ← fields.withDefault "contexts" (entries? "context" contextEntry?) []
    currentContext := ← fields.optional "current-context" string? }

/-! ### Merging -/

/-- The entries of the first list, and those of the second under other names. -/
def mergeEntries (first second : List (String × α)) : List (String × α) :=
  first ++ second.filter fun entry => !(first.map (·.1)).contains entry.1

/-- Whether two values agree where both are given. -/
def agree (a b : Option String) : Bool :=
  a.isNone || b.isNone || a == b

/-- One access file of two, which must agree on what kind of file they are. -/
def merge? (a b : Kubeconfig) : Option Kubeconfig :=
  if agree a.kind b.kind && agree a.apiVersion b.apiVersion then
    some {
      kind := a.kind.or b.kind
      apiVersion := a.apiVersion.or b.apiVersion
      clusters := mergeEntries a.clusters b.clusters
      users := mergeEntries a.users b.users
      contexts := mergeEntries a.contexts b.contexts
      currentContext := a.currentContext.or b.currentContext }
  else none

/-- The access file of a YAML text with any number of documents, after an optional byte order
mark. -/
def ofYaml? (text : String) : Option Kubeconfig := do
  let text := match text.toList with
    | '\ufeff' :: rest => String.ofList rest
    | _ => text
  match ← (← Yaml.values? text).mapM ofDocument? with
  | [] => return empty
  | first :: rest => rest.foldlM merge? first

/-! ### Contexts -/

/-- A context with its cluster and its user. -/
structure Selection where
  context : ContextEntry
  cluster : ClusterEntry
  user : Credentials

/-- The context of that name, or else the current one. -/
def select? (k : Kubeconfig) (name : Option String) : Option Selection := do
  let context ← (k.contexts.lookup (← name.or k.currentContext)).join
  return {
    context := context
    cluster := ← (k.clusters.lookup context.cluster).join
    user := ← (k.users.lookup context.user).join }

end Kubeconfig

end ClusterProvisioning
