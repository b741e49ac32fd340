/-! Sets of characters given by ranges of code points, the ends included. -/

namespace ComponentHost.Text

def inRanges (ranges : List (Nat × Nat)) (c : Char) : Bool :=
  ranges.any fun (first, last) => first ≤ c.toNat && c.toNat ≤ last

def ascending : List (Nat × Nat) → Bool
  | (first, last) :: (next, stop) :: rest =>
    first ≤ last && last + 1 < next && ascending ((next, stop) :: rest)
  | [(first, last)] => first ≤ last
  | [] => true

end ComponentHost.Text
