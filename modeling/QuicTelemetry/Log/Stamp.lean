import QuicTelemetry.Fault

/-!
# Time stamps

The moment of a record in universal time, to the second. Days are counted in
the calendar that skips three leap years in four hundred years; a year starts
in March here, so the leap day comes last and the months in front of it have
fixed lengths.
-/

namespace QuicTelemetry.Stamp

/-- The number of days in four hundred years. -/
def eraDays : Int := 146097

/-- **The date so many days after the first of January 1970**: its year, its
month and its day. -/
def dateOf (days : Int) : Int × Int × Int :=
  -- days from here on are counted from the first of March of the year zero
  let shifted := days + 719468
  let era := shifted / eraDays
  let ofEra := shifted % eraDays
  let year := (ofEra - ofEra / 1460 + ofEra / 36524 - ofEra / 146096) / 365
  let ofYear := ofEra - (365 * year + year / 4 - year / 100)
  -- five months in a row have 153 days, from March on and from August on
  let fromMarch := (5 * ofYear + 2) / 153
  let day := ofYear - (153 * fromMarch + 2) / 5 + 1
  let month := if fromMarch < 10 then fromMarch + 3 else fromMarch - 9
  (era * 400 + year + (if month ≤ 2 then 1 else 0), month, day)

/-- A number in two digits at least. -/
def twoDigits (n : Int) : String :=
  let digits := toString n
  if digits.length < 2 then "0" ++ digits else digits

/-- **The text of a moment**, given in seconds since 1970. -/
def text (seconds : Int) : String :=
  let (year, month, day) := dateOf (seconds / 86400)
  let ofDay := seconds % 86400
  toString year ++ "-" ++ twoDigits month ++ "-" ++ twoDigits day ++ "T"
    ++ twoDigits (ofDay / 3600) ++ ":" ++ twoDigits (ofDay / 60 % 60) ++ ":"
    ++ twoDigits (ofDay % 60)

/-- The first second of a year. -/
def yearStart (year : Int) : Int :=
  -- the years in front of it, of which every fourth is a leap year but for three in 400
  let before := year - 1
  ((365 * before + before / 4 - before / 100 + before / 400) - 719162) * 86400

/-- **The whole seconds of a moment**, which are those before it. They are counted
in 64 bits, and years in 32. -/
def secondsOf : Value → Except Fault Int
  | .real x =>
    match x.floor? with
    | some seconds => inRange seconds
    | none => .error (if x.eq x then .overflow else .malformed)
  | .bool b => .ok (if b then 1 else 0)
  | .int i => inRange i
  | _ => .error .mistyped
where
  /-- Seconds in the range of the calendar, whose years are counted from 1900 on
  and written from zero on. -/
  inRange (seconds : Int) : Except Fault Int :=
    if seconds < -0x8000000000000000 ∨ 0x8000000000000000 ≤ seconds then .error .overflow
    else if seconds < yearStart (-0x80000000 + 1900) ∨ yearStart (0x80000000 + 1900) ≤ seconds then
      .error .beyondCalendar
    else if yearStart 0x80000000 ≤ seconds then .error .overflow
    else .ok seconds

end QuicTelemetry.Stamp
