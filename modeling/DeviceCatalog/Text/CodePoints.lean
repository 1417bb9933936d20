/-!
Sets of characters, which are given by ranges of code points.
-/

namespace DeviceCatalog.Text

/-- The first and the last code point of each range, in ascending order. -/
abbrev CodePoints := Array (Nat × Nat)

def CodePoints.contains (points : CodePoints) (char : Char) : Bool :=
  points.any fun range => range.1 ≤ char.toNat && char.toNat ≤ range.2

end DeviceCatalog.Text
