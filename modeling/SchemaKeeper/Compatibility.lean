import SchemaKeeper.Json.Reader

/-!
Whether a mapping tree may replace another: no field of the old tree may be
missing from the new one, however deep it is nested.  What a field's type is
does not matter here.
-/

namespace SchemaKeeper.Compatibility

/-- Trees that nest deeper than this are not followed. -/
def defaultCeiling : Nat := 64

/-- The fields a tree or a field definition nests, if it nests an object. -/
def nestedFields (tree : Json) : Option (List (String × Json)) :=
  (tree.field? "properties").bind Json.fields?

def nests (definition : Json) : Bool :=
  (definition.field? "properties").isSome

/--
Whether replacing `old` by `new` removes no field, followed through at most
`ceiling` levels.  Both trees must nest an object at every level at which the
old one nests anything.
-/
def isSafe : (ceiling : Nat) → (old new : Json) → Bool
  | 0, _, _ => false
  | ceiling + 1, old, new =>
      match nestedFields old, nestedFields new with
      | some oldFields, some newFields =>
          oldFields.all fun (name, oldDefinition) =>
            match newFields.lookup name with
            | none => false
            | some newDefinition =>
                !nests oldDefinition || isSafe ceiling oldDefinition newDefinition
      | _, _ => false

/-- The same for trees in JSON text; a text that is no JSON is never safe. -/
def isSafeText (ceiling : Nat) (old new : String) : Bool :=
  match Json.parse old, Json.parse new with
  | .ok old, .ok new => isSafe ceiling old new
  | _, _ => false

end SchemaKeeper.Compatibility
