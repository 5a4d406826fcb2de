import SchemaKeeper.Toml.Scalar

/-!
TOML documents.

A document is a list of statements: headers, which open a table or one more
element of an array of tables, and assignments of values to keys.  A table may
be opened by a header only once, and neither values nor tables between braces
may be added to later.  The document's value is an object.
-/

namespace SchemaKeeper.Toml

/-! ## Lines -/

def skipComment : List Char → List Char
  | '#' :: rest => rest.dropWhile isPlain
  | chars => chars

def skipLines : Nat → List Char → List Char
  | 0, chars => chars
  | fuel + 1, chars =>
      match skipComment (skipBlanks chars) with
      | [] => []
      | rest =>
          match lineEnd? rest with
          | some rest => skipLines fuel rest
          | none => skipBlanks chars

/-- Only blanks and a comment may follow on the line. -/
def restOfLine (chars : List Char) : Option (List Char) :=
  match skipComment (skipBlanks chars) with
  | [] => some []
  | rest => lineEnd? rest

/-! ## Keys -/

def nestingLimit : Nat := 79

def isBareKeyChar (c : Char) : Bool :=
  ('a' ≤ c && c ≤ 'z') || ('A' ≤ c && c ≤ 'Z') || Json.Reader.isDigit c || c == '_' || c == '-'

def simpleKey (chars : List Char) : Option (String × List Char) :=
  match chars with
  | '"' :: rest => basicString (rest.length + 1) [] rest
  | '\'' :: rest => literalString rest
  | chars =>
      let name := chars.takeWhile isBareKeyChar
      if name.isEmpty then none else some (String.ofList name, chars.drop name.length)

def keyPath : Nat → Scan (List String)
  | 0, _ => none
  | limit + 1, chars => do
      let (key, rest) ← simpleKey (skipBlanks chars)
      match skipBlanks rest with
      | '.' :: rest =>
          let (keys, rest) ← keyPath limit rest
          return (key :: keys, rest)
      | rest => return ([key], rest)

/-! ## Tables under construction -/

/-- How a table came to be. -/
inductive Standing where
  /-- It holds a table that has a header, and has none itself yet. -/
  | implied
  /-- It was made by a key with dots. -/
  | dotted
  /-- It has a header or braces of its own. -/
  | defined
  deriving DecidableEq, Repr

inductive Node where
  | value (value : Json)
  | table (standing : Standing) (members : List (String × Node))
  /-- An array of tables, the last element first. -/
  | tables (elements : List (List (String × Node)))

/-- A table that statements add to. -/
structure Scope where
  standing : Standing
  members : List (String × Node)

namespace Scope

def empty : Scope :=
  ⟨.defined, []⟩

def put (scope : Scope) (key : String) (node : Node) : Scope :=
  { scope with members := Entries.insert key node scope.members }

/--
Changes the table under a path, which is made if it is missing.  Keys with dots
make dotted tables and may not lead through tables defined elsewhere.
-/
def within (dots : Bool) (change : Scope → Option Scope) : List String → Scope → Option Scope
  | [], scope => change scope
  | key :: path, scope =>
      match scope.members.lookup key with
      | none => do
          let inner ← within dots change path ⟨if dots then .dotted else .implied, []⟩
          return scope.put key (.table inner.standing inner.members)
      | some (.table standing members) =>
          if dots && standing == .defined then none
          else do
            let inner ← within dots change path ⟨standing, members⟩
            return scope.put key (.table inner.standing inner.members)
      | some (.tables (last :: others)) => do
          let inner ← within dots change path ⟨.defined, last⟩
          return scope.put key (.tables (inner.members :: others))
      | some _ => none

/-- Assigns a value to a new key, possibly with dots. -/
def assign (scope : Scope) (path : List String) (value : Json) : Option Scope := do
  let key ← path.getLast?
  let tables := path.dropLast
  let change (inner : Scope) : Option Scope := do
    guard (tables.isEmpty || inner.standing == .dotted)
    guard (inner.members.lookup key).isNone
    return inner.put key (.value value)
  within true change tables scope

/-- Opens a table by its header. -/
def openTable (scope : Scope) (path : List String) : Option Scope := do
  let key ← path.getLast?
  let change (parent : Scope) : Option Scope :=
    match parent.members.lookup key with
    | none => some (parent.put key (.table .defined []))
    | some (.table .implied members) => some (parent.put key (.table .defined members))
    | some _ => none
  within false change path.dropLast scope

/-- Opens one more element of an array of tables. -/
def openElement (scope : Scope) (path : List String) : Option Scope := do
  let key ← path.getLast?
  let change (parent : Scope) : Option Scope :=
    match parent.members.lookup key with
    | none => some (parent.put key (.tables [[]]))
    | some (.tables elements) => some (parent.put key (.tables ([] :: elements)))
    | some _ => none
  within false change path.dropLast scope

end Scope

mutual
def Node.toJson : Node → Json
  | .value value => value
  | .table _ members => .object (membersJson members)
  | .tables elements => .array (elementsJson elements).reverse

def membersJson : List (String × Node) → List (String × Json)
  | [] => []
  | (key, node) :: members => (key, node.toJson) :: membersJson members

def elementsJson : List (List (String × Node)) → List Json
  | [] => []
  | members :: elements => .object (membersJson members) :: elementsJson elements
end

def Scope.toJson (scope : Scope) : Json :=
  .object (membersJson scope.members)

/-! ## Values -/

def arrayItems (item : Scan Json) : Nat → List Json → Scan (List Json)
  | 0, _, _ => none
  | fuel + 1, done, chars =>
      match skipLines chars.length chars with
      | ']' :: rest => some (done.reverse, rest)
      | chars => do
          let (found, rest) ← item chars
          match skipLines rest.length rest with
          | ',' :: rest => arrayItems item fuel (found :: done) rest
          | ']' :: rest => return ((found :: done).reverse, rest)
          | _ => none

def assignment (item : Scan Json) : Scan (List String × Json) := fun chars => do
  let (path, rest) ← keyPath nestingLimit chars
  let rest ← expect ['='] rest
  let (found, rest) ← item (skipBlanks rest)
  return ((path, found), rest)

def inlineMembers (item : Scan Json) : Nat → Scope → Scan Scope
  | 0, _, _ => none
  | fuel + 1, scope, chars => do
      let ((path, found), rest) ← assignment item chars
      let scope ← scope.assign path found
      match skipBlanks rest with
      | ',' :: rest => inlineMembers item fuel scope rest
      | '}' :: rest => return (scope, rest)
      | _ => none

def value : Nat → Scan Json
  | 0, chars => scalar chars
  | level + 1, chars =>
      match chars with
      | '[' :: rest => do
          let (items, rest) ← arrayItems (value level) (rest.length + 1) [] rest
          return (.array items, rest)
      | '{' :: rest =>
          match skipBlanks rest with
          | '}' :: rest => some (.object [], rest)
          | rest => do
              let (scope, rest) ← inlineMembers (value level) (rest.length + 1) .empty rest
              return (scope.toJson, rest)
      | chars => scalar chars

/-! ## Statements -/

inductive Statement where
  | table (path : List String)
  | element (path : List String)
  | assign (path : List String) (value : Json)

def statement : Scan Statement
  | '[' :: '[' :: rest => do
      let (path, rest) ← keyPath nestingLimit rest
      let rest ← expect [']', ']'] rest
      return (.element path, rest)
  | '[' :: rest => do
      let (path, rest) ← keyPath nestingLimit rest
      let rest ← expect [']'] rest
      return (.table path, rest)
  | chars => do
      let ((path, found), rest) ← assignment (value nestingLimit) chars
      return (.assign path found, rest)

def statements : Nat → List Char → Option (List Statement)
  | 0, _ => none
  | fuel + 1, chars =>
      match skipLines chars.length chars with
      | [] => some []
      | chars => do
          let (first, rest) ← statement chars
          return first :: (← statements fuel (← restOfLine rest))

/-- Carries out statements; `header` is the path of the table opened last. -/
def build (root : Scope) (header : List String) : List Statement → Option Scope
  | [] => some root
  | .table path :: rest => do build (← root.openTable path) path rest
  | .element path :: rest => do build (← root.openElement path) path rest
  | .assign path found :: rest => do
      build (← root.within false (·.assign path found) header) header rest

/-! ## Documents -/

/-- The object that a document describes; nothing if it is not valid. -/
def parse (text : String) : Option Json := do
  let chars :=
    match text.toList with
    | '\uFEFF' :: rest => rest
    | chars => chars
  return (← build .empty [] (← statements (chars.length + 1) chars)).toJson

end SchemaKeeper.Toml
