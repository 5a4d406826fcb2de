/-!
Sets of characters, as inclusive ranges of code points in increasing order.
-/

namespace SchemaKeeper.Text

abbrev Ranges := List (Nat × Nat)

def Ranges.has (ranges : Ranges) (c : Char) : Bool :=
  ranges.any fun (first, last) => first ≤ c.toNat && c.toNat ≤ last

end SchemaKeeper.Text
