import SchemaKeeper.Json

/-!
The two texts of a JSON value: compact, without any blank, and pretty, with one
member or item a line and two blanks of indentation for each level.
-/

namespace SchemaKeeper.Json

/-! ## Strings -/

def hexDigit (n : Nat) : Char :=
  if n < 10 then Char.ofNat ('0'.toNat + n) else Char.ofNat ('a'.toNat + (n - 10))

/-- Only quotes, backslashes and control characters are written as escapes. -/
def escapeChar (c : Char) : List Char :=
  if c = '"' then ['\\', '"']
  else if c = '\\' then ['\\', '\\']
  else if c = '\n' then ['\\', 'n']
  else if c = '\r' then ['\\', 'r']
  else if c = '\t' then ['\\', 't']
  else if c.toNat = 8 then ['\\', 'b']
  else if c.toNat = 12 then ['\\', 'f']
  else if c.toNat < 32 then
    ['\\', 'u', '0', '0', hexDigit (c.toNat / 16), hexDigit (c.toNat % 16)]
  else [c]

def quoteChars (s : List Char) : List Char :=
  '"' :: s.flatMap escapeChar ++ ['"']

def quote (s : String) : List Char :=
  quoteChars s.toList

/-! ## Compact text -/

mutual
def compactChars : Json → List Char
  | .null => "null".toList
  | .bool true => "true".toList
  | .bool false => "false".toList
  | .number n => n.toChars
  | .string s => quote s
  | .array items => '[' :: compactItems items ++ [']']
  | .object fields => '{' :: compactFields fields ++ ['}']

def compactItems : List Json → List Char
  | [] => []
  | [item] => item.compactChars
  | item :: items => item.compactChars ++ ',' :: compactItems items

def compactFields : List (String × Json) → List Char
  | [] => []
  | [(key, value)] => quote key ++ ':' :: value.compactChars
  | (key, value) :: fields => quote key ++ ':' :: value.compactChars ++ ',' :: compactFields fields
end

def compact (value : Json) : String :=
  String.ofList value.compactChars

/-! ## Pretty text -/

/-- A new line, indented by a number of levels. -/
def newLine (level : Nat) : List Char :=
  '\n' :: List.replicate (2 * level) ' '

mutual
def prettyChars (level : Nat) : Json → List Char
  | .array [] => ['[', ']']
  | .object [] => ['{', '}']
  | .array (item :: items) =>
      '[' :: newLine (level + 1) ++ item.prettyChars (level + 1) ++
        prettyItems (level + 1) items ++ newLine level ++ [']']
  | .object ((key, value) :: fields) =>
      '{' :: newLine (level + 1) ++ quote key ++ ':' :: ' ' :: value.prettyChars (level + 1) ++
        prettyFields (level + 1) fields ++ newLine level ++ ['}']
  | .null => "null".toList
  | .bool true => "true".toList
  | .bool false => "false".toList
  | .number n => n.toChars
  | .string s => quote s

def prettyItems (level : Nat) : List Json → List Char
  | [] => []
  | item :: items => ',' :: newLine level ++ item.prettyChars level ++ prettyItems level items

def prettyFields (level : Nat) : List (String × Json) → List Char
  | [] => []
  | (key, value) :: fields =>
      ',' :: newLine level ++ quote key ++ ':' :: ' ' :: value.prettyChars level ++
        prettyFields level fields
end

def pretty (value : Json) : String :=
  String.ofList (value.prettyChars 0)

end SchemaKeeper.Json
