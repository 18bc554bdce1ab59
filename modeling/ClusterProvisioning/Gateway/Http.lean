import ClusterProvisioning.Json.Printer

/-!
# HTTP

The requests sent to an API server and what comes back, the length and the characters that a request
target may have, and the wording of status codes.
-/

namespace ClusterProvisioning

/-- A request to an API server. -/
structure HttpRequest where
  method : String
  target : String
  contentType : Option String
  body : Option Json
  deriving Repr

/-- What comes back for a request: an answer, or a connection that failed. -/
inductive HttpReply where
  | answered (status : Nat) (body : String)
  | failed (problem : String)
  deriving DecidableEq, Repr

namespace HttpRequest

def toJson (r : HttpRequest) : Json :=
  .ofMembers ([("method", .string r.method), ("uri", .string r.target)] ++
    (r.contentType.map fun t => ("content_type", Json.string t)).toList ++
    (r.body.map fun b => ("body", b)).toList)

end HttpRequest

namespace HttpReply

/-- Reads a reply: a `fail` text for a connection that failed, else a status, 200 if there is none,
and a body that is a text or any other value, an empty object if there is none or it is null. -/
def ofJson (j : Json) : HttpReply :=
  match j.member? "fail" with
  | some (.string problem) => .failed problem
  | _ =>
    let body := match (j.member? "body").getD .null with
      | .string s => s
      | .null => (Json.object []).render
      | other => other.render
    .answered (((j.member? "status").bind Json.nat?).getD 200) body

end HttpReply

namespace Http

/-- Whether a path takes the character as it is. -/
def isPathChar (c : Char) : Bool :=
  let n := c.toNat
  n == 0x21 || n == 0x22 || (0x24 ≤ n && n ≤ 0x3b) || n == 0x3d || (0x40 ≤ n && n ≤ 0x5f) ||
    (0x61 ≤ n && n ≤ 0x7e)

/-- Whether a query takes the character as it is. -/
def isQueryChar (c : Char) : Bool :=
  let n := c.toNat
  n == 0x21 || (0x24 ≤ n && n ≤ 0x3b) || n == 0x3d || (0x3f ≤ n && n ≤ 0x7e)

/-- The part of a query before a fragment, if all of it may stand there. -/
def checkedQuery : List Char → Option (List Char)
  | [] => some []
  | c :: rest =>
    if c = '#' then some []
    else if isQueryChar c then (checkedQuery rest).map (c :: ·)
    else none

/-- The part of a path with its query before a fragment, if all of it may stand there. -/
def checkedPath : List Char → Option (List Char)
  | [] => some []
  | c :: rest =>
    if c = '?' then (checkedQuery rest).map (c :: ·)
    else if c = '#' then some []
    else if isPathChar c then (checkedPath rest).map (c :: ·)
    else none

/-- Why a text is no request target. -/
inductive TargetProblem where
  | tooLong
  | badCharacter
  deriving DecidableEq, Repr

def TargetProblem.message : TargetProblem → String
  | .tooLong => "uri too long"
  | .badCharacter => "invalid uri character"

/-- The most bytes of an address or of a request target. -/
def lengthLimit : Nat := 65534

/-- The target that is sent for a text. Its length is looked at before its characters. -/
def target (s : String) : Except TargetProblem String :=
  if lengthLimit < s.utf8ByteSize then .error .tooLong
  else
    match checkedPath s.toList with
    | some sent => .ok (String.ofList sent)
    | none => .error .badCharacter

/-- A byte of a form value: letters, digits and `*-._` stand for themselves, a space is a plus sign,
and any other byte is written in hexadecimal. -/
def formByte (b : UInt8) : List Char :=
  let n := b.toNat
  let c := Char.ofNat n
  if n < 0x80 && (c.isAlphanum || c == '*' || c == '-' || c == '.' || c == '_') then [c]
  else if n == 0x20 then ['+']
  else ['%', (Nat.digitChar (n / 16)).toUpper, (Nat.digitChar (n % 16)).toUpper]

/-- A text as the value of a form field. -/
def formValue (s : String) : String :=
  String.ofList (s.toUTF8.toList.flatMap formByte)

/-- Whether a status code says that the request failed. -/
def isFailure (status : Nat) : Bool := 400 ≤ status && status < 600

/-- The standard phrase of the status codes of failures. -/
def phrase? (status : Nat) : Option String :=
  [(400, "Bad Request"), (401, "Unauthorized"), (402, "Payment Required"), (403, "Forbidden"),
    (404, "Not Found"), (405, "Method Not Allowed"), (406, "Not Acceptable"),
    (407, "Proxy Authentication Required"), (408, "Request Timeout"), (409, "Conflict"),
    (410, "Gone"), (411, "Length Required"), (412, "Precondition Failed"),
    (413, "Payload Too Large"), (414, "URI Too Long"), (415, "Unsupported Media Type"),
    (416, "Range Not Satisfiable"), (417, "Expectation Failed"), (418, "I'm a teapot"),
    (421, "Misdirected Request"), (422, "Unprocessable Entity"), (423, "Locked"),
    (424, "Failed Dependency"), (426, "Upgrade Required"), (428, "Precondition Required"),
    (429, "Too Many Requests"), (431, "Request Header Fields Too Large"),
    (451, "Unavailable For Legal Reasons"), (500, "Internal Server Error"),
    (501, "Not Implemented"), (502, "Bad Gateway"), (503, "Service Unavailable"),
    (504, "Gateway Timeout"), (505, "HTTP Version Not Supported"),
    (506, "Variant Also Negotiates"), (507, "Insufficient Storage"), (508, "Loop Detected"),
    (510, "Not Extended"), (511, "Network Authentication Required")].lookup status

/-- A status code with its phrase. -/
def statusLine (status : Nat) : String :=
  let phrase := (phrase? status).getD "<unknown status code>"
  s!"{status} {phrase}"

end Http

end ClusterProvisioning
