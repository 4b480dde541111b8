/-!
# Sets of code points

A Unicode property is kept as the list of its runs of code points, in ascending order.
-/

namespace CrateDoc.Text

/-- Runs of code points, each given by its first and its last. -/
abbrev Ranges := List (Nat × Nat)

/-- Whether a character lies in one of the runs. -/
def Ranges.contains (ranges : Ranges) (c : Char) : Bool :=
  ranges.any fun r => r.1 ≤ c.toNat && c.toNat ≤ r.2

end CrateDoc.Text
