import QuicTelemetry.Proofs.Log.Lines
import QuicTelemetry.Proofs.Value.Writing

/-!
# Which JSON lines are written

A JSON line is written if the moment of the record is one of the calendar, and if
the mapping that the line is to show can be written: its integers are not too long,
and its lists and mappings do not lie too deep. **Otherwise there is no line, and if
there is one, it is one line and gives the record back**
(`LogLine.Plain.write_reads_back`).

What JSON has a form for is shown in the same way by its literal, so the search for
what is in the way of a JSON text is the one for literals
(`Json.obstacle?_of_isJson`).
-/

namespace QuicTelemetry

/-! ## Moments -/

/-- **The seconds that a moment tells**: whole ones, those before it, in a year that
is counted from 1900 and written from zero in 32 bits. -/
def Stamp.Tells (created : Value) (seconds : Int) : Prop :=
  ((∃ b, created = .bool b ∧ seconds = if b then 1 else 0) ∨ created = .int seconds
    ∨ ∃ x, created = .real x ∧ x.floor? = some seconds)
  ∧ -67768040609740800 ≤ seconds ∧ seconds < 67767976233532800

namespace Json

variable {digits : Nat} {form : Value.Form}

theorem obstacles_eq_map (items : List Value) (room : Nat) :
    obstacles digits form items room = items.map fun item => obstacle? digits form item room := by
  induction items with
  | nil => rfl
  | cons item items ih => rw [obstacles, ih, List.map_cons]

theorem entryObstacles_eq_map (entries : List (String × Value)) (room : Nat) :
    entryObstacles digits form entries room
      = entries.map fun entry => obstacle? digits form entry.2 room := by
  induction entries with
  | nil => rfl
  | cons entry entries ih => rw [entryObstacles, ih, List.map_cons]

/-- **What is in the way of a JSON text** is in the way of the literal, for values
that JSON has a form for. -/
theorem obstacle?_of_isJson {v : Value} (hv : v.IsJson) (room : Nat) :
    obstacle? digits form v room = v.obstacle? digits .literal room := by
  induction hv generalizing room with
  | null | bool b | int i | text s => rfl
  | @list items _ ih =>
    have hitems (room : Nat) : obstacles digits form items room
        = Value.obstacles digits items .literal room := by
      rw [obstacles_eq_map, Value.obstacles_eq_map]
      exact List.map_congr_left fun item hitem => ih item hitem room
    simp only [obstacle?, Value.obstacle?, hitems]
  | @dict entries _ _ ih =>
    have hentries (room : Nat) : entryObstacles digits form entries room
        = Value.entryObstacles digits entries room := by
      rw [entryObstacles_eq_map, Value.entryObstacles_eq_map]
      exact List.map_congr_left fun entry hentry => ih entry hentry room
    simp only [obstacle?, Value.obstacle?, hentries]

end Json

/-! ## Plain records -/

namespace LogLine.Plain

/-- **Whether what a record says can be written**: no integer in it is too long, and
nothing in it lies too deep. -/
def Fits (p : Plain) (limits : Limits) : Prop :=
  (Value.dict p.entries.entries).Writes limits .literal

/-- Nothing is in the way of the line of a record exactly if it can be written. -/
theorem obstacle?_eq_none_iff {p : Plain} (hfields : ∀ field ∈ p.fields, field.2.IsJson)
    (limits : Limits) : p.obstacle? limits = none ↔ p.Fits limits := by
  have hjson : (Value.dict p.entries.entries).IsJson :=
    .dict p.nodup_keys_entries (isJson_entries hfields)
  unfold obstacle? Fits
  rw [Json.obstacle?_of_isJson hjson, Value.obstacle?_eq_none_iff]

end LogLine.Plain

/-! ## Records without a line -/

/-- A list in a list, so many times. -/
def Value.nested : Nat → Value
  | 0 => .list []
  | n + 1 => .list [nested n]

namespace LogLine.Plain

/-- What can be written of a record can be written under each name of it, with a level
less of room. -/
theorem Fits.writes {p : Plain} {digits depth : Nat} (h : p.Fits ⟨digits, depth + 1⟩)
    {key : String} {v : Value} (hv : p.entries.get? key = some v) :
    v.Writes ⟨digits, depth⟩ .literal :=
  (Value.writes_succ_iff.mp h).2 v .literal ⟨rfl, (key, v), Table.mem_entries_of_get? hv, rfl⟩

end LogLine.Plain

end QuicTelemetry
