/-!
# Patterns

A pattern stands for the texts that match it: `*` for any characters, `?` for
one, and characters between brackets for one of them, where `a-z` is a range
and a leading `!` stands for all others. Letter case matters.
-/

namespace QuicTelemetry.Text

/-- One place of a pattern. -/
inductive GlobItem where
  /-- The character itself. -/
  | char (c : Char)
  /-- Any one character. -/
  | one
  /-- Any characters. -/
  | many
  /-- A character in one of the ranges, or in none of them. -/
  | range (negated : Bool) (ranges : List (Char × Char))
  deriving Repr

/-- The ranges between brackets; a character alone is a range of one. -/
def globRanges : List Char → List (Char × Char)
  | a :: '-' :: b :: rest => (a, b) :: globRanges rest
  | a :: rest => (a, a) :: globRanges rest
  | [] => []

/-- What stands between brackets, and the rest. A closing bracket that comes
first is a character of the set. -/
def bracket? (cs : List Char) : Option (Bool × List Char × List Char) :=
  let (negated, cs) := match cs with
    | '!' :: rest => (true, rest)
    | rest => (false, rest)
  let (first, cs) := match cs with
    | ']' :: rest => ([']'], rest)
    | rest => ([], rest)
  match cs.dropWhile (· ≠ ']') with
  | [] => none
  | _ :: rest => some (negated, first ++ cs.takeWhile (· ≠ ']'), rest)

/-- The places of a pattern; the second argument bounds their number. -/
def globItems : Nat → List Char → List GlobItem
  | 0, _ => []
  | _, [] => []
  | fuel + 1, '*' :: rest => .many :: globItems fuel rest
  | fuel + 1, '?' :: rest => .one :: globItems fuel rest
  | fuel + 1, '[' :: rest =>
    match bracket? rest with
    | some (negated, inside, rest) =>
      .range negated (globRanges inside) :: globItems fuel rest
    | none => .char '[' :: globItems fuel rest
  | fuel + 1, c :: rest => .char c :: globItems fuel rest

/-- Whether the places match a text. -/
def globMatch : List GlobItem → List Char → Bool
  | [], cs => cs.isEmpty
  | .many :: items, [] => globMatch items []
  | .many :: items, c :: cs => globMatch items (c :: cs) || globMatch (.many :: items) cs
  | _, [] => false
  | .char a :: items, c :: cs => a == c && globMatch items cs
  | .one :: items, _ :: cs => globMatch items cs
  | .range negated ranges :: items, c :: cs =>
    (ranges.any (fun (low, high) => low ≤ c && c ≤ high) != negated) && globMatch items cs
termination_by items cs => (items.length, cs.length)

/-- **Whether a text matches a pattern.** -/
def matchesGlob (pattern s : String) : Bool :=
  let cs := pattern.toList
  globMatch (globItems cs.length cs) s.toList

end QuicTelemetry.Text
