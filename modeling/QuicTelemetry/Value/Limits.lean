import QuicTelemetry.Value

/-!
# Limits of what is written

The text and the literal of a value are written within limits: an integer has so
many digits at most, and what holds other values takes a level of the stack for
them. An object of a class of its own may raise an exception instead. Whichever
comes first on the way through the value keeps the whole of it from being
written.
-/

namespace QuicTelemetry

/-- **The limits of what is written.** -/
structure Limits where
  /-- The most digits of an integer. -/
  digits : Nat := 4300
  /-- The most levels of values inside values. -/
  depth : Nat := 1000
  deriving Repr

/-- The limits as they are if nobody sets them, with the whole stack free. -/
def Limits.standard : Limits := {}

/-- **What keeps a value from being written.** -/
inductive Obstacle where
  /-- An integer of more digits than are written. -/
  | tooLong
  /-- Values inside values, deeper than the stack has room for. -/
  | tooDeep
  /-- A character in front of the first one of a text. -/
  | outside
  /-- An exception that an object raises, by its class. -/
  | raised (kind : String)
  deriving DecidableEq, Repr

/-- What is met inside a value, if there is room for another level. -/
def Obstacle.inside (room : Nat) (met : Nat → Option Obstacle) : Option Obstacle :=
  match room with
  | 0 => some .tooDeep
  | room + 1 => met room

namespace Value

/-- **What is written of a value.** -/
inductive Form where
  /-- Its text. -/
  | text
  /-- Its literal. -/
  | literal
  deriving DecidableEq, Repr

/-- What keeps a part of the text of an exception from being written, from what
keeps the texts and the literals of its arguments. -/
def FailurePart.obstacle? (texts literals : List (Option Obstacle)) :
    FailurePart → Option Obstacle
  | .mark _ => none
  | .text i => texts.getD i none
  | .literal i => literals.getD i none
  | .tuple => literals.findSome? id
  | .outside => some .outside

/-- What an object raises where it is asked for a form of it. -/
def raised? : Except String String → Option Obstacle
  | .ok _ => none
  | .error kind => some (.raised kind)

mutual

/-- **What keeps a value from being written** in a form, with integers of some
digits at most and room for some levels of values inside it. -/
def obstacle? (digits : Nat) : Value → Form → Nat → Option Obstacle
  | .int i, _, _ => if Nat.pow 10 digits ≤ i.natAbs then some .tooLong else none
  | .list items, _, room | .tuple items, _, room =>
    Obstacle.inside room fun room => (obstacles digits items .literal room).findSome? id
  | .dict entries, _, room =>
    Obstacle.inside room fun room => (entryObstacles digits entries room).findSome? id
  | .failure kind args, .literal, room =>
    Obstacle.inside room fun room =>
      ((obstacles digits args .literal room).take (shownArguments kind args)).findSome? id
  | .failure kind args, .text, room =>
    Obstacle.inside room fun room =>
      (failureParts kind args).findSome?
        (FailurePart.obstacle? (obstacles digits args .text room)
          (obstacles digits args .literal room))
  | .object _ said _, .text, _ => raised? said
  | .object _ _ shown, .literal, _ => raised? shown
  | _, _, _ => none

/-- What keeps each of some values from being written. -/
def obstacles (digits : Nat) : List Value → Form → Nat → List (Option Obstacle)
  | [], _, _ => []
  | item :: rest, form, room =>
    obstacle? digits item form room :: obstacles digits rest form room

/-- What keeps the values of a mapping from being written. -/
def entryObstacles (digits : Nat) : List (String × Value) → Nat → List (Option Obstacle)
  | [], _ => []
  | (_, value) :: rest, room =>
    obstacle? digits value .literal room :: entryObstacles digits rest room

end

end Value

end QuicTelemetry
