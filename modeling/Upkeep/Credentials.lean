/-
Upkeep.Credentials — how to log in to a remote host.

Credentials are made by `Credentials.make`, which checks them: a user
name, a valid address, a port, and exactly one of a password and a private
key. `Credentials.ofPayload` decodes the document in which they arrive, and
`Credentials.ofArguments` takes them part by part.
Neither a password nor a key is ever part of a message: `display` shows
host, user name and port only.
-/
import Upkeep.Address
import Upkeep.Encoding.Base64
import Upkeep.Encoding.Detection
import Upkeep.Items
import Upkeep.Json.Reader
import Upkeep.Log.Record
import Upkeep.Port
import Upkeep.Signature

namespace Upkeep

/-- How to log in to a remote host. The user name, a password and the texts
of known hosts may be any JSON value; one that is not given counts as
absent. -/
structure Credentials where
  host : String
  username : Json
  port : Int
  password : Json := .null
  privateKey : Option (List UInt8) := none
  knownHosts : Json := .null
  deriving BEq, Repr

/-- The form in which credentials arrive. A text writes a document; any
other value is gone through for its fields. -/
inductive Payload
  | octets (bytes : List UInt8)
  | value (j : Json)
  deriving BEq, Repr

namespace Credentials

/-! ## 1. Views -/

/-- Some key material is present. -/
def hasKey (c : Credentials) : Bool := (c.privateKey.map fun k => !k.isEmpty).getD false

/-- The remote address with its port. -/
def address (c : Credentials) : String := s!"{c.host}:{c.port}"

/-- The name of the way to log in. -/
def method (c : Credentials) : String := if c.hasKey then "publickey" else "password"

/-- The credentials as they are shown, without any secret. -/
def display (c : Credentials) : String :=
  s!"ConnectionCredentials(host={Text.quote c.host}, username={c.username.display}, port={c.port})"

/-! ## 2. Checking -/

/-- The host that a value names. Only a text can name one. -/
def hostOf (written : Json) (depths : Json.Depths) : Except Problem String :=
  match written with
  | .text host => (Address.checkHost host).mapError Problem.failure
  | j =>
    if !j.isGiven then .error (.misconfigured .noHost)
    else match j.items? with
      | none => .error (.fault ⟨.wrongType, s!"object of type '{j.kindWord}' has no len()"⟩)
      | some items =>
        if items.length > Address.lengthLimit then
          .error (.refusing depths j (.invalidHost j))
        else .error (.fault
          ⟨.wrongType, s!"expected string or bytes-like object, got '{j.kindWord}'"⟩)

/-- Credentials from their parts, host and port as they were written. -/
def make (host username port : Json) (password : Json := .null)
    (privateKey : Option (List UInt8) := none) (knownHosts : Json := .null)
    (depths : Json.Depths) : Except Problem Credentials := do
  if !username.isGiven then throw (.misconfigured .noUsername)
  let host ← hostOf host depths
  let port ← Port.read port depths
  let c : Credentials := { host, username, port, password, privateKey, knownHosts }
  if password.isGiven && c.hasKey then throw (.misconfigured .twoSecrets)
  if !password.isGiven && !c.hasKey then throw (.misconfigured .noSecret)
  return c

/-! ## 3. Decoding -/

/-- The key material that a value encodes in base64; blanks are passed
over. -/
def decodeKey (encoded : Json) : Except Problem (List UInt8) :=
  match encoded with
  | .text s =>
    let kept := s.toList.filter fun c => !Text.isBlank c
    match Encoding.Base64.decode kept with
    | some key => .ok key
    | none =>
      let fault : Fault :=
        if kept.all fun c => c.toNat < 0x80 then ⟨.malformedBase64, "malformed base64"⟩
        else ⟨.value, "string argument should contain only ASCII characters"⟩
      .error (.misconfigured .undecodableKey (some fault))
  | j => .error (.fault ⟨.missingAttribute, s!"'{j.kindWord}' object has no attribute 'split'"⟩)

/-- The document that a text writes. -/
def readDocument (s : List Char) (unmarked : Bool) (depths : Json.Depths := .usual) :
    Except Fault Json :=
  match if unmarked then Json.readUnmarked s depths else Json.read s depths with
  | .ok j => .ok j
  | .error flaw =>
    match flaw with
    | .malformed .. => .error ⟨.malformedDocument, flaw.message s⟩
    | .tooManyDigits _ => .error ⟨.value, flaw.message s⟩
    | .tooDeep _ => .error ⟨.tooDeep, flaw.message s⟩

/-- The fields of what was read from a payload. That it cannot be made
sense of is a misconfiguration; that it is nested too deep is not. -/
def fieldsOfDocument (document : Except Fault Json) : Except Problem (List (String × Json)) :=
  match document with
  | .ok (.object fields) => .ok fields
  | .ok _ => .error (.misconfigured .credentialsNotAnObject)
  | .error fault =>
    if fault.kind.isValueFault then
      .error (.misconfigured (.unreadableCredentials fault) (some fault))
    else .error (.fault fault)

/-- The fields of a payload. -/
def fieldsOf (payload : Payload) (depths : Json.Depths) :
    Except Problem (List (String × Json)) :=
  match payload with
  | .octets bytes =>
    fieldsOfDocument <|
      match Encoding.decodeDocument bytes with
      | .ok s => readDocument s false depths
      | .error u => .error ⟨.undecodableText, u.message⟩
  | .value (.text s) => fieldsOfDocument (readDocument s.toList true depths)
  | .value j => j.fields.mapError Problem.fault

/-- A field of a document, null if it is missing. -/
def fieldOrNull (fields : List (String × Json)) (key : String) : Json :=
  (Json.field? key fields).getD .null

/-- A field taken as text; empty if it is not given. -/
def textField (fields : List (String × Json)) (key : String) (depths : Json.Depths) :
    Except Problem Json :=
  match (Json.field? key fields).bind Json.given? with
  | none => .ok (.text "")
  | some j => ((j.toText depths).map Json.text).mapError Problem.fault

/-- A field if it is given, null otherwise. -/
def givenField (fields : List (String × Json)) (key : String) : Json :=
  ((Json.field? key fields).bind Json.given?).getD .null

/-- The record that says that the default port is used. -/
def defaultPortRecord : Log.Record :=
  ⟨.info, Log.Source.credentials,
    "Remote host port not found in the credentials, using default port 22"⟩

/-- Credentials from the fields of a document. -/
def ofFields (fields : List (String × Json)) (depths : Json.Depths) :
    Except Problem Credentials := do
  let privateKey ← match (Json.field? "privateKey" fields).bind Json.given? with
    | none => .ok none
    | some encoded => some <$> decodeKey encoded
  let host ← textField fields "hostIP" depths
  let username ← textField fields "username" depths
  make host username (fieldOrNull fields "hostPort") (givenField fields "password") privateKey
    (givenField fields "knownHosts") depths

/-- Credentials from a payload, with what is logged on the way. -/
def ofPayload (payload : Payload) (depths : Json.Depths := .usual) :
    List Log.Record × Except Problem Credentials :=
  match fieldsOf payload depths with
  | .error problem => ([], .error problem)
  | .ok fields =>
    let records := if Port.isUnset (fieldOrNull fields "hostPort") then [defaultPortRecord] else []
    (records, ofFields fields depths)

/-! ## 4. Part by part -/

/-- The parts of credentials. -/
def signature : Signature :=
  { name := "ConnectionCredentials.__init__"
    required := ["host", "username"]
    optional := ["port", "password", "private_key", "known_hosts"] }

/-- Credentials from their parts by name, key material in octets. -/
def ofArguments (arguments : List (String × Json)) (privateKey : Option (List UInt8) := none)
    (depths : Json.Depths := .usual) : Except Problem Credentials :=
  match signature.complaint? arguments with
  | some fault => .error (.fault fault)
  | none =>
    make (fieldOrNull arguments "host") (fieldOrNull arguments "username")
      ((Json.field? "port" arguments).getD (.number (.whole Port.default)))
      (fieldOrNull arguments "password") privateKey (fieldOrNull arguments "known_hosts") depths

end Credentials

end Upkeep
