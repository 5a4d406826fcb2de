import SchemaKeeper.Url.Label
import SchemaKeeper.Url.Percent

/-!
Hosts of web addresses: domain names, IPv4 addresses in all their spellings and
bracketed IPv6 addresses.  Domain names outside ASCII are refused, but their
labels may stand for other characters.
-/

namespace SchemaKeeper.Url

inductive UrlError where
  | emptyHost
  | invalidDomain
  | invalidPort
  | invalidIpv4
  | invalidIpv6
  | invalidHostCharacter
  | relativeWithoutBase
  deriving DecidableEq, Repr

def UrlError.message : UrlError → String
  | .emptyHost => "empty host"
  | .invalidDomain => "invalid international domain name"
  | .invalidPort => "invalid port number"
  | .invalidIpv4 => "invalid IPv4 address"
  | .invalidIpv6 => "invalid IPv6 address"
  | .invalidHostCharacter => "invalid domain character"
  | .relativeWithoutBase => "relative URL without a base"

inductive Host where
  | domain (name : String)
  | ipv4 (address : Nat)
  /-- Eight groups of sixteen bits. -/
  | ipv6 (groups : List Nat)
  deriving DecidableEq, Repr

/-! ## IPv4 -/

def isDecimal (c : Char) : Bool :=
  '0' ≤ c && c ≤ '9'

def isHexadecimal (c : Char) : Bool :=
  isDecimal c || ('a' ≤ c && c ≤ 'f') || ('A' ≤ c && c ≤ 'F')

def digitValue (c : Char) : Nat :=
  if isDecimal c then c.toNat - '0'.toNat
  else if 'a' ≤ c then c.toNat - 'a'.toNat + 10
  else c.toNat - 'A'.toNat + 10

def valueOf (base : Nat) (digits : List Char) : Nat :=
  digits.foldl (fun n d => n * base + digitValue d) 0

/-- Splits at a separator; there is one part more than there are separators. -/
def splitAt (separator : Char) : List Char → List (List Char)
  | [] => [[]]
  | c :: rest =>
      match splitAt separator rest with
      | part :: parts => if c = separator then [] :: part :: parts else (c :: part) :: parts
      | [] => [[c]]

/-- A part of an IPv4 address: decimal, hexadecimal after `0x`, octal after `0`. -/
def ipv4Part (chars : List Char) : Option Nat :=
  let octal (c : Char) : Bool := '0' ≤ c && c ≤ '7'
  let read (base : Nat) (isDigit : Char → Bool) (digits : List Char) : Option Nat :=
    if digits.all isDigit then some (valueOf base digits) else none
  match chars with
  | [] => none
  | '0' :: 'x' :: digits | '0' :: 'X' :: digits => read 16 isHexadecimal digits
  | '0' :: digit :: digits => read 8 octal (digit :: digits)
  | digits => read 10 isDecimal digits

/-- The parts of a dotted name without an empty last one. -/
def dottedParts (name : List Char) : List (List Char) :=
  let parts := splitAt '.' name
  if parts.getLast? = some [] then parts.dropLast else parts

/-- Whether a domain name has to be an IPv4 address. -/
def endsInNumber (name : List Char) : Bool :=
  let parts := splitAt '.' name
  let last :=
    match parts.reverse with
    | [] :: before :: _ => before
    | last :: _ => last
    | [] => []
  !last.isEmpty && (last.all isDecimal || (ipv4Part last).isSome)

/-- The last part fills all bytes that the parts before it leave. -/
def parseIpv4 (name : List Char) : Except UrlError Nat :=
  let parts := dottedParts name
  if parts.length > 4 then .error .invalidIpv4
  else
    match parts.mapM ipv4Part with
    | none => .error .invalidIpv4
    | some numbers =>
        match numbers.reverse with
        | [] => .error .invalidIpv4
        | last :: before =>
            if last ≥ Nat.pow 256 (5 - numbers.length) || before.any (255 < ·) then
              .error .invalidIpv4
            else
              let high :=
                before.reverse.zipIdx.foldl (fun n (b, i) => n + b * Nat.pow 256 (3 - i)) 0
              .ok (high + last)

def ipv4Text (address : Nat) : String :=
  ".".intercalate ([3, 2, 1, 0].map fun i => toString (address / Nat.pow 256 i % 256))

/-! ## IPv6 -/

/-- Up to four hexadecimal digits in front. -/
def hexGroup (chars : List Char) : List Char × List Char :=
  let digits := (chars.take 4).takeWhile isHexadecimal
  (digits, chars.drop digits.length)

/-- A decimal byte without leading zeros. -/
def decimalByte (chars : List Char) : Option (Nat × List Char) :=
  let digits := chars.takeWhile isDecimal
  let value := valueOf 10 digits
  if digits.isEmpty || 255 < value || (digits.length > 1 && digits.head? == some '0') then none
  else some (value, chars.drop digits.length)

/-- Four decimal bytes and nothing after them, as two groups. -/
def embeddedIpv4 (chars : List Char) : Option (List Nat) := do
  let (a, rest) ← decimalByte chars
  let '.' :: rest := rest | none
  let (b, rest) ← decimalByte rest
  let '.' :: rest := rest | none
  let (c, rest) ← decimalByte rest
  let '.' :: rest := rest | none
  let (d, rest) ← decimalByte rest
  if rest.isEmpty then some [a * 256 + b, c * 256 + d] else none

/--
The groups of an address and the place of the gap `::` among them.  `count` is
the number of groups so far, where a gap counts as one.
-/
def ipv6Groups : Nat → (groups : List Nat) → (gap : Option Nat) → List Char →
    Option (List Nat × Option Nat)
  | 0, _, _, _ => none
  | _ + 1, groups, gap, [] => some (groups, gap)
  | fuel + 1, groups, gap, chars =>
      let count := groups.length + (if gap.isSome then 1 else 0)
      if count = 8 then none
      else
        match chars with
        | ':' :: rest =>
            if gap.isSome then none else ipv6Groups fuel groups (some groups.length) rest
        | _ =>
            let (digits, rest) := hexGroup chars
            let more := groups ++ [valueOf 16 digits]
            match rest with
            | [] => some (more, gap)
            | '.' :: _ =>
                if digits.isEmpty || 6 < count then none
                else (embeddedIpv4 chars).map fun last => (groups ++ last, gap)
            | [':'] => none
            | ':' :: rest => ipv6Groups fuel more gap rest
            | _ => none

def parseIpv6 (chars : List Char) : Except UrlError (List Nat) :=
  let found :=
    match chars with
    | ':' :: ':' :: rest => ipv6Groups (rest.length + 1) [] (some 0) rest
    | ':' :: _ | [] => none
    | rest => ipv6Groups (rest.length + 1) [] none rest
  match found with
  | none => .error .invalidIpv6
  | some (groups, none) => if groups.length = 8 then .ok groups else .error .invalidIpv6
  | some (groups, some gap) =>
      if groups.length > 7 then .error .invalidIpv6
      else
        .ok (groups.take gap ++ List.replicate (8 - groups.length) 0 ++ groups.drop gap)

/-- The first longest run of at least two zero groups, as start and length. -/
def longestZeroRun (groups : List Nat) : Option (Nat × Nat) :=
  let runs := (List.range groups.length).map fun start =>
    (start, ((groups.drop start).takeWhile (· == 0)).length)
  let best := runs.foldl (fun best run => if best.2 < run.2 then run else best) (0, 1)
  if 2 ≤ best.2 then some best else none

def groupsText (groups : List Nat) : List Char :=
  [':'].intercalate (groups.map (Nat.toDigits 16))

def ipv6Text (groups : List Nat) : String :=
  match longestZeroRun groups with
  | none => String.ofList (groupsText groups)
  | some (start, length) =>
      String.ofList (groupsText (groups.take start) ++ [':', ':'] ++
        groupsText (groups.drop (start + length)))

/-! ## Hosts -/

def isForbiddenInHost (c : Char) : Bool :=
  "\x00\t\n\r #/:<>?@[\\]^|".toList.contains c

def isForbiddenInDomain (c : Char) : Bool :=
  isForbiddenInHost c || c == '%' || c.toNat < 0x20 || 0x7F ≤ c.toNat

def bracketed (chars : List Char) : Option (List Char) :=
  match chars with
  | '[' :: rest => if rest.getLast? = some ']' then some rest.dropLast else none
  | _ => none

/--
The host of an address with a scheme of the web.  A domain name is percent-decoded
and written in small letters, and refused if that leads outside ASCII.
-/
def Host.parse (chars : List Char) : Except UrlError Host :=
  if chars.head? = some '[' then
    match bracketed chars with
    | some inner => (parseIpv6 inner).map .ipv6
    | none => .error .invalidIpv6
  else
    match Text.decodeUtf8 (percentDecode (Text.encodeUtf8 chars)) with
    | .error _ => .error .invalidDomain
    | .ok name =>
        let name := name.toList.map Char.toLower
        if name.any isForbiddenInDomain || !Label.areWellFormed (splitAt '.' name) then
          .error .invalidDomain
        else if name.isEmpty then .error .emptyHost
        else if endsInNumber name then (parseIpv4 name).map .ipv4
        else .ok (.domain (String.ofList name))

/-- The host of an address with any other scheme. -/
def Host.parseOpaque (chars : List Char) : Except UrlError Host :=
  if chars.head? = some '[' then
    match bracketed chars with
    | some inner => (parseIpv6 inner).map .ipv6
    | none => .error .invalidIpv6
  else if chars.any isForbiddenInHost then .error .invalidHostCharacter
  else .ok (.domain (String.ofList (chars.flatMap (percentEncodeChar isControl))))

def Host.toText : Host → String
  | .domain name => name
  | .ipv4 address => ipv4Text address
  | .ipv6 groups => "[" ++ ipv6Text groups ++ "]"

end SchemaKeeper.Url
