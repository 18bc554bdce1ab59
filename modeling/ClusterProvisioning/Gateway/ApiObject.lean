import ClusterProvisioning.Gateway.Schema

/-!
# Objects as the API exchanges them

An object of any kind: its type, its metadata, and the rest, which passes through as it is.
-/

namespace ClusterProvisioning

/-- An object of any kind. -/
structure ApiObject where
  /-- API version and kind, kept only when both are given. -/
  type : Option (String × String)
  metadata : Json
  rest : Table Json
  deriving Repr

namespace ApiObject

/-- What is known of the type of an object while its entries are looked through. -/
structure TypeScan where
  apiVersion : Option String
  kind : Option String
  /-- Whether an entry was no text, or came twice: then no type is taken from the others. -/
  stopped : Bool

/-- Takes an entry of an object as part of its type, if it is one; `none` if it passes through. -/
def TypeScan.take? (scan : TypeScan) (name : String) (value : Document) : Option TypeScan :=
  if scan.stopped then none
  else
    let part (old : Option String) (set : String → TypeScan) : Option TypeScan :=
      match old, value with
      | none, .string s => some (set s)
      | _, _ => some { scan with stopped := true }
    if name = "apiVersion" then part scan.apiVersion fun s => { scan with apiVersion := some s }
    else if name = "kind" then part scan.kind fun s => { scan with kind := some s }
    else none

/-- Looks through the entries of an object: what they say of its type, and those that pass
through. -/
def scanType (scan : TypeScan) :
    List (String × Document) → TypeScan × List (String × Document)
  | [] => (scan, [])
  | (name, value) :: rest =>
    match scan.take? name value with
    | some scan => scanType scan rest
    | none =>
      let (scan, passing) := scanType scan rest
      (scan, (name, value) :: passing)

/-- Reads an object. Metadata may be missing but must be an object if it is there. -/
def ofDocument? : Document → Option ApiObject
  | .map entries => do
    let named ← entries.mapM (Document.namedValue? some)
    let metadata ← match Schema.given "metadata" named with
      | [] => some (.object [])
      | [d] => Schema.metadata.read? d
      | _ => none
    let others := named.filter fun entry => entry.1 ≠ "metadata"
    let _ ← others.mapM fun entry => entry.2.toJson?
    let (scan, rest) := scanType ⟨none, none, false⟩ others
    let rest ← rest.mapM fun entry => (entry.2.toJson?).map fun j => (entry.1, j)
    return {
      type := if scan.stopped then none
        else match scan.apiVersion, scan.kind with
          | some apiVersion, some kind => some (apiVersion, kind)
          | _, _ => none
      metadata := metadata
      rest := Table.ofEntries rest }
  | _ => none

/-- Reads an object from a JSON value. -/
def ofJson? (j : Json) : Option ApiObject := ofDocument? (.ofJson j)

/-- The JSON value of an object. -/
def toJson (o : ApiObject) : Json :=
  let type := match o.type with
    | some (apiVersion, kind) => [("apiVersion", Json.string apiVersion), ("kind", .string kind)]
    | none => []
  .ofMembers (type ++ ("metadata", o.metadata) :: o.rest)

/-- The name in the metadata of an object. -/
def name? (o : ApiObject) : Option String :=
  (o.metadata.member? "name").bind Json.text?

end ApiObject

end ClusterProvisioning
