import SchemaKeeper.Text.Base64
import SchemaKeeper.Transport

/-!
HTTP messages: the bytes of a request, and the answer in the bytes that come
back until the connection is closed.
-/

namespace SchemaKeeper

/-! ## Requests -/

namespace HttpRequest

/-- User name and password as they are sent. -/
def authorization (name : String) (password : Option String) : String :=
  let bytes := Text.encodeUtf8 (name ++ ":" ++ password.getD "").toList
  "Basic " ++ String.ofList (Text.encodeBase64 bytes)

def hostHeader (url : Url) : String :=
  (url.host.map Url.Host.toText).getD "" ++ (url.port.map fun port => s!":{port.toNat}").getD ""

def bodyBytes (request : HttpRequest) : List UInt8 :=
  Text.encodeUtf8 (request.body.getD "").toList

def headers (request : HttpRequest) : List (String × String) :=
  [("host", hostHeader request.url), ("accept", "*/*"), ("connection", "close")] ++
  (request.credentials.map fun (name, password) =>
    ("authorization", authorization name password)).toList ++
  (if request.body.isSome then
    [("content-type", "application/json"),
      ("content-length", toString request.bodyBytes.length)]
  else [])

def bytes (request : HttpRequest) : List UInt8 :=
  let first := s!"{request.verb.name} {request.url.target} HTTP/1.1\r\n"
  let lines := request.headers.map fun (name, value) => s!"{name}: {value}\r\n"
  Text.encodeUtf8 (first ++ String.join lines ++ "\r\n").toList ++ request.bodyBytes

end HttpRequest

/-! ## Answers -/

structure HttpReply where
  code : UInt16
  /-- The names are in lower case. -/
  headers : List (String × String)
  body : List UInt8
  deriving DecidableEq, Repr

namespace HttpReply

def lineFeed : UInt8 := 10

def carriageReturn : UInt8 := 13

/-- The bytes up to a line end, and what follows it. -/
def takeLine (bytes : List UInt8) : Option (List UInt8 × List UInt8) :=
  let line := bytes.takeWhile (· != lineFeed)
  match bytes.drop line.length with
  | [] => none
  | _ :: rest =>
      some (if line.getLast? = some carriageReturn then line.dropLast else line, rest)

/-- The characters whose code points are these bytes. -/
def charsOf (bytes : List UInt8) : List Char :=
  bytes.map fun b => Char.ofNat b.toNat

/-- The lines up to an empty one; the fuel bounds their number. -/
def takeHead : Nat → List UInt8 → Option (List (List Char) × List UInt8)
  | 0, _ => none
  | fuel + 1, bytes => do
      let (line, rest) ← takeLine bytes
      if line.isEmpty then return ([], rest)
      else
        let (lines, rest) ← takeHead fuel rest
        return (charsOf line :: lines, rest)

/-- The code in a status line. -/
def statusCode (line : List Char) : Option Nat := do
  guard ("HTTP/1.".toList.isPrefixOf line)
  let rest := (line.dropWhile (· != ' ')).tail
  let digits := rest.take 3
  guard (digits.length = 3 && digits.all Url.isDecimal && (rest.drop 3).head?.all (· == ' '))
  return Url.valueOf 10 digits

def header (line : List Char) : String × String :=
  let name := line.takeWhile (· != ':')
  (String.ofList (name.map Char.toLower),
    Text.trim (String.ofList (line.drop (name.length + 1))))

/-- The contents of chunks, each after a line with its size; nothing if they break off. -/
def chunks : Nat → List UInt8 → Option (List UInt8)
  | 0, _ => none
  | fuel + 1, bytes => do
      let (line, rest) ← takeLine bytes
      let digits := (charsOf line).takeWhile Url.isHexadecimal
      guard !digits.isEmpty
      let size := Url.valueOf 16 digits
      if size = 0 then return []
      else
        guard (size < rest.length)
        let (mark, behind) ← takeLine (rest.drop size)
        guard mark.isEmpty
        return rest.take size ++ (← chunks fuel behind)

def isBodiless (verb : Wire.Verb) (code : Nat) : Bool :=
  verb == .head || code == 204 || code == 304

def takeBody (headers : List (String × String)) (bytes : List UInt8) : Option (List UInt8) :=
  if headers.lookup "transfer-encoding" = some "chunked" then chunks (bytes.length + 1) bytes
  else
    match (headers.lookup "content-length").bind (·.toNat?) with
    | some size => if size ≤ bytes.length then some (bytes.take size) else none
    | none => some bytes

/-- Reads an answer; answers that only announce another one are passed over. -/
def ofBytes (verb : Wire.Verb) : Nat → List UInt8 → Except ExchangeFailure HttpReply
  | 0, _ => .error .noAnswer
  | fuel + 1, bytes => do
      let some (first :: lines, rest) := takeHead bytes.length bytes | throw .noAnswer
      let some code := statusCode first | throw .noAnswer
      if 100 ≤ code ∧ code < 200 then ofBytes verb fuel rest
      else
        let headers := lines.map header
        if isBodiless verb code then return ⟨code.toUInt16, headers, []⟩
        else
          let some body := takeBody headers rest | throw .brokenBody
          return ⟨code.toUInt16, headers, body⟩

/-- The answer to a request with this verb in all that was received. -/
def read (verb : Wire.Verb) (received : List UInt8) : Except ExchangeFailure HttpReply :=
  ofBytes verb (received.length + 1) received

def response (reply : HttpReply) : Response :=
  ⟨reply.code, Text.decodeLossy reply.body⟩

end HttpReply

/-! ## Redirects -/

def redirectLimit : Nat := 10

/-- The address that a reference stands for on the page with an address. -/
def Url.join (url : Url) (reference : String) : Option Url :=
  let directory := (url.path.toList.reverse.dropWhile (· != '/')).reverse
  let target :=
    if (Url.splitScheme reference.toList).isSome then reference
    else if reference.startsWith "//" then s!"{url.scheme}:{reference}"
    else if reference.startsWith "/" then url.origin ++ reference
    else if reference.startsWith "?" then url.origin ++ url.path ++ reference
    else url.origin ++ String.ofList directory ++ reference
  (Url.parse target).toOption

/-- The request that an answer redirects to; credentials stay with their host. -/
def HttpRequest.redirected (request : HttpRequest) (reply : HttpReply) : Option HttpRequest := do
  guard ([301, 302, 303, 307, 308].contains reply.code)
  let url ← request.url.join (← reply.headers.lookup "location")
  let sameHost := url.host == request.url.host && url.portOrDefault == request.url.portOrDefault
  let credentials := if sameHost then request.credentials else none
  if reply.code = 303 && request.verb != .head then return ⟨.get, url, credentials, none⟩
  else return ⟨request.verb, url, credentials, request.body⟩

end SchemaKeeper
