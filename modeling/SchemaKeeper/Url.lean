import SchemaKeeper.Url.Host

/-!
Web addresses: reading the spellings that browsers accept, and writing the one
normal spelling.

The schemes `http`, `https`, `ws`, `wss`, `ftp` and `file` are special: their
authority may follow any number of slashes, a backslash is a slash, and their
host is a domain name or an IP address.
-/

namespace SchemaKeeper

/-- An address; user name, password, path, query and fragment are kept in their escaped form. -/
structure Url where
  scheme : String
  username : String
  password : Option String
  host : Option Url.Host
  /-- Absent when it is the default of the scheme. -/
  port : Option UInt16
  path : String
  query : Option String
  fragment : Option String
  deriving DecidableEq, Repr

namespace Url

/-! ## Schemes -/

def defaultPort (scheme : String) : Option UInt16 :=
  if scheme = "http" ∨ scheme = "ws" then some 80
  else if scheme = "https" ∨ scheme = "wss" then some 443
  else if scheme = "ftp" then some 21
  else none

def isSpecial (scheme : String) : Bool :=
  (defaultPort scheme).isSome || scheme == "file"

def isLetter (c : Char) : Bool :=
  ('a' ≤ c && c ≤ 'z') || ('A' ≤ c && c ≤ 'Z')

def isSchemeChar (c : Char) : Bool :=
  isLetter c || isDecimal c || c == '+' || c == '-' || c == '.'

/-- The scheme before the first colon, in lower case, and what follows the colon. -/
def splitScheme (chars : List Char) : Option (String × List Char) :=
  let name := chars.takeWhile isSchemeChar
  match name, chars.drop name.length with
  | first :: _, ':' :: rest =>
      if isLetter first then some (String.ofList (name.map Char.toLower), rest) else none
  | _, _ => none

/-! ## Authorities -/

/-- The authority ends at a slash, a question mark, a number sign or, if special, a backslash. -/
def endsAuthority (special : Bool) (c : Char) : Bool :=
  c == '/' || c == '?' || c == '#' || (special && c == '\\')

/-- What stands before the last `@` of an authority, if there is one, and what follows it. -/
def splitUserInfo (authority : List Char) : Option (List Char) × List Char :=
  let behind := (authority.reverse.takeWhile (· != '@')).reverse
  if behind.length = authority.length then (none, authority)
  else (some (authority.take (authority.length - behind.length - 1)), behind)

/-- Characters of a host up to a colon outside of brackets. -/
def hostChars (inBrackets : Bool) : List Char → List Char
  | [] => []
  | c :: rest =>
      if c = ':' ∧ inBrackets = false then []
      else c :: hostChars (if c = '[' then true else if c = ']' then false else inBrackets) rest

/-- A port that is the scheme's default is left out, as is an empty one. -/
def parsePort (scheme : String) (digits : List Char) : Except UrlError (Option UInt16) :=
  let rec value (n : Nat) : List Char → Except UrlError Nat
    | [] => .ok n
    | c :: rest =>
        if c = '\\' then .ok n
        else if isDecimal c then
          let m := n * 10 + digitValue c
          if m < 65536 then value m rest else .error .invalidPort
        else .error .invalidPort
  if digits.isEmpty then .ok none
  else do
    let n ← value 0 digits
    let port := n.toUInt16
    return if defaultPort scheme = some port then none else some port

structure Authority where
  username : String
  password : Option String
  host : Host
  port : Option UInt16

def escapeUserInfo (chars : List Char) : String :=
  String.ofList (chars.flatMap (percentEncodeChar inUserInfo))

/--
Splits user name and password at the first colon.  An empty password counts as
none.
-/
def splitPassword (userInfo : List Char) : String × Option String :=
  let name := userInfo.takeWhile (· != ':')
  let password := userInfo.drop (name.length + 1)
  (escapeUserInfo name, if password.isEmpty then none else some (escapeUserInfo password))

/-- Reads an authority; `rest` is what follows it. -/
def parseAuthority (scheme : String) (authority : List Char) (rest : List Char) :
    Except UrlError Authority := do
  let special := isSpecial scheme
  let (userInfo, hostAndPort) := splitUserInfo authority
  if userInfo = some [] ∧ hostAndPort.isEmpty ∧ !rest.isEmpty then throw .emptyHost
  let (username, password) := splitPassword (userInfo.getD [])
  let name := hostChars false hostAndPort
  if special && name.isEmpty then throw .emptyHost
  let host ← if special then Host.parse name else Host.parseOpaque name
  let afterHost := hostAndPort.drop name.length
  if name.isEmpty ∧ !afterHost.isEmpty then throw .emptyHost
  let port ← parsePort scheme afterHost.tail
  if name.isEmpty ∧ (username ≠ "" ∨ password.isSome) then throw .emptyHost
  return ⟨username, password, host, port⟩

/-! ## Paths -/

def segments (special : Bool) (path : List Char) : List (List Char) :=
  splitAt '/' (if special then path.map fun c => if c = '\\' then '/' else c else path)

def isSingleDot (segment : List Char) : Bool :=
  let s := segment.map Char.toLower
  s == ".".toList || s == "%2e".toList

/-- A segment that stands for the directory above. -/
def isDoubleDot (segment : List Char) : Bool :=
  let s := segment.map Char.toLower
  s == "..".toList || s == ".%2e".toList || s == "%2e.".toList || s == "%2e%2e".toList

/-- A letter and a colon or a bar, which name a drive. -/
def isDriveLetter (segment : List Char) : Bool :=
  match segment with
  | [letter, mark] => isLetter letter && (mark == ':' || mark == '|')
  | _ => false

/-- Drops the last segment, which stands first here; drives are not left. -/
def leave : List (List Char) → List (List Char)
  | [] => []
  | last :: before => if isDriveLetter last then last :: before else before

/-- Follows the segments; `done` holds the path so far, last segment first. -/
def resolveDots (done : List (List Char)) : List (List Char) → List (List Char)
  | [] => done.reverse
  | [last] =>
      if isDoubleDot last then ([] :: leave done).reverse
      else if isSingleDot last then ([] :: done).reverse
      else (last :: done).reverse
  | segment :: rest =>
      if isDoubleDot segment then resolveDots (leave done) rest
      else if isSingleDot segment then resolveDots done rest
      else resolveDots (segment :: done) rest

/-- The escaped segments of a path, given without its first slash. -/
def normalSegments (special : Bool) (path : List Char) : List (List Char) :=
  resolveDots [] ((segments special path).map fun segment =>
    segment.flatMap (percentEncodeChar inPath))

def pathText (segments : List (List Char)) : String :=
  String.ofList (segments.flatMap fun segment => '/' :: segment)

/-- The normal form of a path that begins with a slash or is empty. -/
def normalPath (special : Bool) (path : List Char) : String :=
  pathText (normalSegments special path.tail)

/-- The path of a file: no empty segments in front, and a colon behind the letter of a drive. -/
def filePath (segments : List (List Char)) : String :=
  match segments.dropWhile (·.isEmpty) with
  | [] => "/"
  | first :: rest =>
      if isDriveLetter first && !(segments.head?.any (·.isEmpty)) then
        pathText ((first.take 1 ++ [':']) :: rest)
      else pathText (first :: rest)

/-! ## Addresses -/

/-- Drops control characters and spaces at both ends, and tabs and line ends anywhere. -/
def clean (text : String) : List Char :=
  let isEdge (c : Char) : Bool := c.toNat ≤ 0x20
  (((text.toList.dropWhile isEdge).reverse.dropWhile isEdge).reverse).filter
    fun c => !(c == '\t' || c == '\n' || c == '\r')

structure Tail where
  path : List Char
  query : Option String
  fragment : Option String

def splitTail (chars : List Char) : Tail :=
  let path := chars.takeWhile fun c => c != '?' && c != '#'
  let escape (mustEscape : Char → Bool) (cs : List Char) : String :=
    String.ofList (cs.flatMap (percentEncodeChar mustEscape))
  match chars.drop path.length with
  | '?' :: rest =>
      let query := rest.takeWhile (· != '#')
      let fragment :=
        match rest.drop query.length with
        | _ :: cs => some (escape inFragment cs)
        | [] => none
      ⟨path, some (escape inQuery query), fragment⟩
  | '#' :: rest => ⟨path, none, some (escape inFragment rest)⟩
  | _ => ⟨path, none, none⟩

def parseHierarchical (scheme : String) (chars : List Char) : Except UrlError Url := do
  let special := isSpecial scheme
  let authority := chars.takeWhile fun c => !endsAuthority special c
  let rest := chars.drop authority.length
  let found ← parseAuthority scheme authority rest
  let tail := splitTail rest
  let path :=
    if !special && tail.path.isEmpty then "" else normalPath special tail.path
  return ⟨scheme, found.username, found.password, some found.host, found.port, path, tail.query,
    tail.fragment⟩

/-- A `file` address without user name, password and port; a drive has no host. -/
def fileAddress (host : Option Host) (chars : List Char) : Url :=
  let tail := splitTail chars
  let path :=
    match tail.path with
    | '/' :: rest | '\\' :: rest => normalSegments true rest
    | path => normalSegments true path
  let host := if path.head?.any isDriveLetter then none else host
  ⟨"file", "", none, host, none, filePath path, tail.query, tail.fragment⟩

/-- Only two slashes in front introduce the host of a `file` address. -/
def parseFile (chars : List Char) : Except UrlError Url := do
  let isSlash (c : Char) : Bool := c == '/' || c == '\\'
  match chars with
  | a :: b :: rest =>
      if isSlash a && isSlash b then
        let name := rest.takeWhile fun c => !endsAuthority true c
        if name.isEmpty || isDriveLetter name then return fileAddress none rest
        else
          let host ← Host.parse name
          let host := if host = .domain "localhost" then none else some host
          return fileAddress host (rest.drop name.length)
      else return fileAddress none chars
  | _ => return fileAddress none chars

/-- An address without authority; its path is opaque. -/
def parseOpaquePath (scheme : String) (chars : List Char) : Url :=
  let tail := splitTail chars
  ⟨scheme, "", none, none, none, String.ofList (tail.path.flatMap (percentEncodeChar isControl)),
    tail.query, tail.fragment⟩

def parse (text : String) : Except UrlError Url :=
  match splitScheme (clean text) with
  | none => .error .relativeWithoutBase
  | some (scheme, rest) =>
      if scheme = "file" then parseFile rest
      else if isSpecial scheme then
        parseHierarchical scheme (rest.dropWhile fun c => c == '/' || c == '\\')
      else
        match rest with
        | '/' :: '/' :: rest => parseHierarchical scheme rest
        | _ => .ok (parseOpaquePath scheme rest)

def hostText (url : Url) : Option String :=
  match url.host with
  | none => none
  | some host => if host.toText = "" then none else some host.toText

def portOrDefault (url : Url) : Option UInt16 :=
  url.port <|> defaultPort url.scheme

/-- Scheme, host and port, as they stand in front of the path. -/
def origin (url : Url) : String :=
  let host := (url.host.map Host.toText).getD ""
  let port := (url.port.map fun p => s!":{p.toNat}").getD ""
  s!"{url.scheme}://{host}{port}"

def target (url : Url) : String :=
  url.path ++ (url.query.map ("?" ++ ·)).getD ""

def withoutUserInfo (url : Url) : String :=
  url.origin ++ url.target ++ (url.fragment.map ("#" ++ ·)).getD ""

end Url

end SchemaKeeper
