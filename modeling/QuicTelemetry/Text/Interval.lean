/-!
# Character sets

A set of characters is written as the ascending list of the code points at
which membership changes: the first change enters the set, the next one
leaves it. A character is in the set if an odd number of changes lie at or
before it.
-/

namespace QuicTelemetry.Text

/-- Whether a character is in the set with the given changes. -/
def within (changes : List Nat) (c : Char) : Bool :=
  changes.countP (fun change => change ≤ c.toNat) % 2 == 1

end QuicTelemetry.Text
