/-!
Sets of characters given as sorted ranges of code points.
-/

namespace HomePortal.Text

abbrev Ranges := List (Nat × Nat)

def Ranges.has (ranges : Ranges) (point : Nat) : Bool :=
  ranges.any fun range => range.1 ≤ point && point ≤ range.2

end HomePortal.Text
