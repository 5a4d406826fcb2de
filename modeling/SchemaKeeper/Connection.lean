import SchemaKeeper.Table
import SchemaKeeper.Text.Blank
import SchemaKeeper.Text.Quoted
import SchemaKeeper.Url

/-!
Connections: where a cluster is reached, with which credentials, and which of
the supported versions it runs.  A connection is given as a web address, and a
desired object refers to it by a name in a table.
-/

namespace SchemaKeeper

/-! ## Versions -/

inductive Version where
  | v6
  | v7
  | v8
  deriving DecidableEq, Repr, Inhabited

/-! ## What can be wrong -/

/-- What keeps a web address from being read. -/
inductive UriFault where
  | address (reason : Url.UrlError)
  | credentials (reason : Text.Utf8Fault)
  deriving DecidableEq, Repr

inductive ConnectionError where
  | invalidUri (reason : String)
  | missingHost
  | unsupportedScheme (scheme : String)
  | missingPort (scheme : String)
  | unsupportedVersion (reported : String)
  | unknownReference (name : String)
  deriving DecidableEq, Repr

def UriFault.message : UriFault → String
  | .address reason => reason.message
  | .credentials reason => s!"credentials are not valid UTF-8: {reason.message}"

def ConnectionError.message : ConnectionError → String
  | .invalidUri reason => s!"💀 connection URI does not parse: {reason}"
  | .missingHost => "💀 connection URI has no host"
  | .unsupportedScheme scheme => s!"💀 connection URI scheme `{scheme}` is not http or https"
  | .missingPort scheme => s!"💀 connection URI has no port and `{scheme}` has no default one"
  | .unsupportedVersion reported =>
      s!"💀 cluster version `{reported}` is not supported, expected major 6, 7 or 8"
  | .unknownReference name => s!"💀 connection `{name}` is not configured"

namespace Version

def major : Version → Nat
  | .v6 => 6
  | .v7 => 7
  | .v8 => 8

def label (version : Version) : String :=
  s!"v{version.major}"

/-- Only the digits in front of a reported version count. -/
def ofReported (reported : String) : Except ConnectionError Version :=
  let digits := (Text.trimChars Text.isBlank reported.toList).takeWhile Url.isDecimal
  let major := if digits.isEmpty then none else some (Url.valueOf 10 digits)
  if major = some 6 then .ok .v6
  else if major = some 7 then .ok .v7
  else if major = some 8 then .ok .v8
  else .error (.unsupportedVersion reported)

end Version

/-! ## Connections -/

structure Connection where
  scheme : String
  host : String
  port : UInt16
  username : Option String
  password : Option String
  /-- Known beforehand, or left to be learned from the cluster. -/
  version : Option Version
  deriving DecidableEq, Repr, Inhabited

namespace Connection

def decodeCredential (escaped : String) : Except ConnectionError String :=
  (Text.decodeUtf8 (Url.percentDecode (Text.encodeUtf8 escaped.toList))).mapError
    fun fault => .invalidUri (UriFault.credentials fault).message

def ofUri (uri : String) : Except ConnectionError Connection := do
  let url ← (Url.parse uri).mapError fun reason =>
    .invalidUri (UriFault.address reason).message
  let some host := url.hostText | throw .missingHost
  if url.scheme ≠ "http" ∧ url.scheme ≠ "https" then throw (.unsupportedScheme url.scheme)
  let some port := url.portOrDefault | throw (.missingPort url.scheme)
  let username ←
    if url.username = "" then pure none else some <$> decodeCredential url.username
  let password ←
    match url.password with
    | none => pure none
    | some escaped => some <$> decodeCredential escaped
  return ⟨url.scheme, host, port, username, password, none⟩

def withoutPassword (c : Connection) : Connection :=
  { c with password := none }

def withVersion (c : Connection) (version : Version) : Connection :=
  { c with version := some version }

def baseUrl (c : Connection) : String :=
  s!"{c.scheme}://{c.host}:{c.port.toNat}"

def sameEndpoint (c d : Connection) : Bool :=
  c.host == d.host && c.port == d.port

def quotedOption : Option String → String
  | none => "None"
  | some s => s!"Some({Text.quoted s})"

def inspect (c : Connection) : String :=
  let version :=
    match c.version with
    | none => "None"
    | some version => s!"Some(V{version.major})"
  let hidden := c.password.map fun _ => "<redacted>"
  s!"EsConnection \x7b scheme: {Text.quoted c.scheme}, host: {Text.quoted c.host}, " ++
    s!"port: {c.port.toNat}, username: {quotedOption c.username}, " ++
    s!"password: {quotedOption hidden}, " ++
    s!"version: {version} \x7d"

/-- The connection that a name stands for in a table of web addresses. -/
def resolve (table : Table String) (name : String) : Except ConnectionError Connection :=
  match table.get? name with
  | none => .error (.unknownReference name)
  | some uri => ofUri uri

end Connection

end SchemaKeeper
