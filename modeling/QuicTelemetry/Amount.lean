import QuicTelemetry.Fault

/-!
# Amounts

What a caller adds, sets or observes: a number as it was given, whole or
binary64. A whole number may be of any size; it is compared exactly, and
becomes a binary64 number only where it meets one, which fails beyond the
range.
-/

namespace QuicTelemetry

/-- **A number as it was given.** -/
inductive Amount where
  /-- A whole number. -/
  | whole (i : Int)
  /-- A binary64 number. -/
  | real (x : Binary64)
  deriving DecidableEq, Repr

namespace Amount

/-- The amount a value is: a truth value is one or zero. -/
def ofValue? : Value → Option Amount
  | .bool b => some (.whole (if b then 1 else 0))
  | .int i => some (.whole i)
  | .real x => some (.real x)
  | _ => none

/-- The amount a value is, where nothing else is taken. -/
def ofValue (v : Value) : Except Fault Amount :=
  match ofValue? v with
  | some a => .ok a
  | none => .error .mistyped

/-- The value an amount is. -/
def toValue : Amount → Value
  | .whole i => .int i
  | .real x => .real x

/-- The binary64 number nearest to an amount, if it is in the range. -/
def toReal : Amount → Except Fault Binary64
  | .real x => .ok x
  | .whole i =>
    match Binary64.ofInt? i with
    | some x => .ok x
    | none => .error .overflow

/-- **Exact comparison**: no rounding, and false as soon as one side is
`nan`. -/
def lt : Amount → Amount → Bool
  | .whole i, .whole j => decide (i < j)
  | .real x, .real y => x.lt y
  | .whole i, .real y =>
    match y with
    | .finite negative units _ =>
      decide (i * Binary64.unitsPerOne < if negative then -(units : Int) else units)
    | .infinite negative => !negative
    | .nan => false
  | .real x, .whole j =>
    match x with
    | .finite negative units _ =>
      decide ((if negative then -(units : Int) else units) < j * Binary64.unitsPerOne)
    | .infinite negative => negative
    | .nan => false

/-- Whether an amount is below zero. -/
def isNegative (a : Amount) : Bool := a.lt (.whole 0)

/-- The amount with the opposite sign; the whole zero has none. -/
def neg : Amount → Amount
  | .whole i => .whole (-i)
  | .real x => .real x.neg

/-- The sum of a binary64 number and an amount. -/
def addTo (x : Binary64) (a : Amount) : Except Fault Binary64 := do return x.add (← a.toReal)

/-- The difference of a binary64 number and an amount. -/
def subFrom (x : Binary64) (a : Amount) : Except Fault Binary64 := do return x.sub (← a.toReal)

/-- The sum of two amounts, which is whole if both are. -/
def add : Amount → Amount → Except Fault Amount
  | .whole i, .whole j => .ok (.whole (i + j))
  | .real x, a => do return .real (← a.addTo x)
  | .whole i, .real y => do return .real ((← (whole i).toReal).add y)

end Amount

/-- **The binary64 number a value stands for**, numerals included. -/
def Value.toReal : Value → Except Fault Binary64
  | .bool b => .ok (if b then 1 else 0)
  | .int i => (Amount.whole i).toReal
  | .real x => .ok x
  | .text s => ofNumeral s
  | .bytes b =>
    if b.all (· < 128) then ofNumeral (String.ofList (b.map fun n => Char.ofNat n.toNat))
    else .error .malformed
  | _ => .error .mistyped
where
  /-- The number a text stands for. -/
  ofNumeral (s : String) : Except Fault Binary64 :=
    match Binary64.ofText? s with
    | some x => .ok x
    | none => .error .malformed

/-- The items of a value that is gone through one by one. -/
def Value.items (v : Value) : Except Fault (List Value) :=
  match v.items? with
  | some items => .ok items
  | none => .error .mistyped

end QuicTelemetry
