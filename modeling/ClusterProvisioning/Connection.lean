import ClusterProvisioning.Connection.Kubeconfig
import ClusterProvisioning.Connection.Pem
import ClusterProvisioning.Connection.ServerUrl
import ClusterProvisioning.Report
import ClusterProvisioning.Text.Timestamp

/-!
# Connections

Where the cluster is and how to speak to it, from an access file that is named or else from the
standard one; and whether a client can be made of that before anything is sent.
-/

namespace ClusterProvisioning

/-- What the caller says about the connection. -/
structure ConnectionChoice where
  /-- The path of an access file, in the place of the standard one. -/
  kubeconfig : Option String
  /-- A context in the place of the current one. -/
  context : Option String
  /-- The most seconds that reading one answer may take. -/
  readTimeout : Option UInt64
  deriving DecidableEq, Repr

/-- A connection to a cluster. -/
structure Connection where
  server : ServerUrl
  ns : String
  readTimeout : UInt64
  skipsVerification : Bool
  /-- The certificates of those who may vouch for the server, in the place of the standard ones. -/
  authorities : Option (List (List UInt8))
  user : Credentials
  deriving DecidableEq, Repr

/-- The content of a certificate or a key, given the content of files by path. -/
def Material.content? (contentOf : String → Option String) (m : Material) :
    Option (List UInt8) := do
  let bytes ← match m.data with
    | some data => Text.Base64.decode? data.toList
    | none => ((← m.path) |> contentOf).map Pem.bytesOf
  return if bytes.getLast?.all (· == 0x0a) then bytes else bytes ++ [0x0a]

/-- The certificates of a bundle; no bundle is not given at all. -/
def Material.certificates? (contentOf : String → Option String) (m : Material) :
    Option (Option (List (List UInt8))) :=
  if m.data.isNone && m.path.isNone then some none
  else ((m.content? contentOf).bind Pem.certificates?).map some

namespace Connection

/-- The namespace of a context that names none. -/
def standardNamespace : String := "default"

/-- The seconds that reading one answer may take when nobody says so. -/
def standardReadTimeout : UInt64 := 295

/-! ### Establishing -/

/-- The connection of a context of an access file. -/
def ofKubeconfig? (contentOf : String → Option String) (k : Kubeconfig)
    (choice : ConnectionChoice) : Option Connection := do
  let s ← k.select? choice.context
  let proxy := s.cluster.proxy.getD ""
  if proxy ≠ "" then
    let _ ← ServerUrl.ofText? proxy
  return {
    server := ← ServerUrl.ofText? (← s.cluster.server)
    ns := s.context.ns.getD standardNamespace
    readTimeout := choice.readTimeout.getD standardReadTimeout
    skipsVerification := s.cluster.skipsVerification
    authorities := ← s.cluster.authority.certificates? contentOf
    user := s.user }

/-- The connection that a choice stands for, given the content of files by path, and of the standard
access file if there is one. -/
def establish (contentOf : String → Option String) (standard : Option String)
    (choice : ConnectionChoice) : Except (Report GatewayError) Connection :=
  let orFail (problem : ConnectionProblem) (c : Option Connection) :
      Except (Report GatewayError) Connection :=
    match c with
    | some c => .ok c
    | none => .error (.of (.connectionFailed problem))
  let ofStandard := do ofKubeconfig? contentOf (← Kubeconfig.ofYaml? (← standard)) choice
  match choice.kubeconfig, choice.context with
  | some path, _ =>
    match (contentOf path).bind Kubeconfig.ofYaml? with
    | some k => orFail (.unusableFile path) (ofKubeconfig? contentOf k choice)
    | none => .error (.of (.connectionFailed (.unreadableFile path)))
  | none, some context => orFail (.unknownContext context) ofStandard
  | none, none => orFail .nothingFound ofStandard

/-! ### Clients -/

/-- How a user proves who it is in each request. -/
inductive Authorization where
  | none
  | basic
  | bearer (token : String)
  /-- A token that is read anew from time to time. -/
  | refreshed
  deriving DecidableEq, Repr

/-- The authorization of a provider. Cached tokens count while they are valid at the time `now`;
what would take another program or a network to learn counts as unknown. -/
def providerAuthorization? (now : Text.PointInTime) (p : AuthProvider) :
    Option Authorization :=
  let setting (name : String) : Option String := p.settings.get? name
  match p.name, setting "id-token" with
  | "oidc", some token | "gcp", some token => some (.bearer token)
  | "gcp", none => do
    let _ ← setting "access-token"
    let expiry ← Text.PointInTime.ofText? (← setting "expiry")
    if now.isBefore expiry then some .refreshed else Option.none
  | _, _ => Option.none

/-- The authorization of a user: what a provider gives, else a name with a password, else a token,
else a file with a token. Plugins are not run. -/
def authorization? (contentOf : String → Option String) (now : Text.PointInTime)
    (user : Credentials) : Option Authorization :=
  match user.provider, user.username, user.password, user.token, user.tokenPath with
  | some provider, _, _, _, _ => providerAuthorization? now provider
  | none, some _, some _, _, _ => some .basic
  | none, _, _, some token, _ => some (.bearer token)
  | none, _, _, none, some path => (contentOf path).map fun _ => .refreshed
  | none, _, _, none, none => if user.hasPlugin then Option.none else some .none

/-- The identity of a user for the handshake with a server: a key and certificates, if both can be
read. -/
def identity? (contentOf : String → Option String) (user : Credentials) :
    Option (List UInt8) := do
  return (← user.key.content? contentOf) ++ (← user.certificate.content? contentOf)

/-- Whether a header of a request takes the text. -/
def isHeaderText (s : String) : Bool :=
  s.toList.all fun c => c == '\t' || (0x20 ≤ c.toNat && c.toNat ≠ 0x7f)

/-- Why no client is made of a connection. -/
inductive ClientFailure where
  | failed (report : Report GatewayError)
  /-- The token cannot be written in a header, which nobody has provided for. -/
  | unwritableToken
  deriving Repr

def ClientFailure.unwritableTokenMessage : String :=
  "token is not valid header: InvalidHeaderValue"

/-- Whether what the handshake with a server needs is in order. -/
def canShakeHands (c : Connection) (contentOf : String → Option String) : Bool :=
  (c.authorities.getD []).all Der.isCertificate
    && (identity? contentOf c.user).all Pem.isIdentity

/-- Makes a client of a connection, given the content of files by path and the present time. -/
def client (c : Connection) (contentOf : String → Option String) (now : Text.PointInTime) :
    Except ClientFailure Unit :=
  let refused : Except ClientFailure Unit :=
    .error (.failed (.of (.connectionFailed .unusableCredentials)))
  if !c.canShakeHands contentOf then refused
  else match authorization? contentOf now c.user with
    | none => refused
    | some authorization =>
      let isWritable := match authorization with
        | .bearer token => isHeaderText token
        | _ => true
      let names := c.user.impersonated.toList ++ c.user.impersonatedGroups
      if !isWritable then .error .unwritableToken
      else if names.all isHeaderText then .ok ()
      else refused

end Connection

end ClusterProvisioning
