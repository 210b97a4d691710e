import QuicTelemetry.Value.Limits

/-!
# What can be written

A value is written with what is shown inside it: the items of a collection, the
arguments of an exception. What is shown, in which form and at which depth, is a
relation of its own (`Value.Shows`), and a value can be written if everything it
shows can, where it stands (`Value.Writes`).

The search for what keeps a value from being written goes the same way and ends at
the first obstacle. **It finds none exactly if the value can be written**
(`Value.obstacle?_eq_none_iff`). The induction is on the room that is left: what is
inside has one level less of it, whatever the value is.
-/

namespace QuicTelemetry.Value

/-! ## What is shown -/

/-- Which argument of an exception a part of its text shows, and in which form. -/
def FailurePart.Holds (args : List Value) : FailurePart → Form → Value → Prop
  | .text i, form, arg => form = .text ∧ args[i]? = some arg
  | .literal i, form, arg => form = .literal ∧ args[i]? = some arg
  | .tuple, form, arg => form = .literal ∧ arg ∈ args
  | .mark _, _, _ | .outside, _, _ => False

/-- **What stands directly inside a value** when it is written in a form, and in
which form it stands there. -/
def Holds (form : Form) : Value → Form → Value → Prop
  | .list items, f, part | .tuple items, f, part => f = .literal ∧ part ∈ items
  | .dict entries, f, part => f = .literal ∧ ∃ entry ∈ entries, entry.2 = part
  | .failure kind args, f, part =>
    match form with
    | .text => ∃ shown ∈ failureParts kind args, shown.Holds args f part
    | .literal => f = .literal ∧ part ∈ args.take (shownArguments kind args)
  | _, _, _ => False

/-- **What a value shows** when it is written in a form: at which depth, in which
form, and what. -/
inductive Shows : Form → Value → Nat → Form → Value → Prop
  /-- It shows itself. -/
  | self {form : Form} {v : Value} : Shows form v 0 form v
  /-- It shows what stands inside it, and what that shows. -/
  | inside {form f g : Form} {v part w : Value} {n : Nat} (hholds : Holds form v f part)
      (h : Shows f part n g w) : Shows form v (n + 1) g w

/-- **Whether what is shown at a depth can be written.** An integer is so long at
most; what holds other values does not lie too deep; an exception shows no
character that is not there; and an object does not raise an exception. -/
def IsWritable (limits : Limits) (depth : Nat) (form : Form) : Value → Prop
  | .int i => i.natAbs < Nat.pow 10 limits.digits
  | .list _ | .tuple _ | .dict _ => depth < limits.depth
  | .failure kind args =>
    depth < limits.depth ∧ (form = .text → .outside ∉ failureParts kind args)
  | .object _ said shown => ∃ s, (if form = .text then said else shown) = .ok s
  | _ => True

/-- **Whether a value can be written** in a form: all that it shows can. -/
def Writes (limits : Limits) (form : Form) (v : Value) : Prop :=
  ∀ {n g w}, Shows form v n g w → w.IsWritable limits n g

/-- A value can be written if it can itself, and if what stands inside it can, with
a level less of room. -/
theorem writes_succ_iff {digits room : Nat} {form : Form} {v : Value} :
    v.Writes ⟨digits, room + 1⟩ form ↔ v.IsWritable ⟨digits, room + 1⟩ 0 form
      ∧ ∀ part f, Holds form v f part → part.Writes ⟨digits, room⟩ f := by
  have hlevel (n : Nat) (g : Form) (w : Value) :
      w.IsWritable ⟨digits, room + 1⟩ (n + 1) g ↔ w.IsWritable ⟨digits, room⟩ n g := by
    cases w <;> simp [IsWritable]
  constructor
  · intro h
    exact ⟨h .self, fun part f hholds _ g w hshows => (hlevel _ g w).mp (h (.inside hholds hshows))⟩
  · rintro ⟨hself, hinside⟩ n g w hshows
    cases hshows with
    | self => exact hself
    | inside hholds hshows => exact (hlevel _ g w).mpr (hinside _ _ hholds hshows)

/-- Without room for what is inside, there is nothing inside. -/
theorem writes_zero_iff {digits : Nat} {form : Form} {v : Value} :
    v.Writes ⟨digits, 0⟩ form ↔ v.IsWritable ⟨digits, 0⟩ 0 form := by
  refine ⟨fun h => h .self, fun h n g w hshows => ?_⟩
  cases hshows with
  | self => exact h
  | @inside _ f _ _ part =>
    -- what holds something needs a level of room for it
    rename_i hholds _
    cases v <;> simp [IsWritable, Holds] at h hholds

/-! ## What is in the way -/

theorem obstacles_eq_map (digits : Nat) (items : List Value) (form : Form) (room : Nat) :
    obstacles digits items form room = items.map fun item => obstacle? digits item form room := by
  induction items with
  | nil => rfl
  | cons item items ih => rw [obstacles, ih, List.map_cons]

theorem entryObstacles_eq_map (digits : Nat) (entries : List (String × Value)) (room : Nat) :
    entryObstacles digits entries room
      = entries.map fun entry => obstacle? digits entry.2 .literal room := by
  induction entries with
  | nil => rfl
  | cons entry entries ih => rw [entryObstacles, ih, List.map_cons]

theorem raised?_eq_none_iff {answer : Except String String} :
    raised? answer = none ↔ ∃ s, answer = .ok s := by
  cases answer <;> simp [raised?]

/-- Nothing is in the way of a part of the text of an exception if it is there, and
nothing is in the way of the arguments it shows. -/
theorem FailurePart.obstacle?_eq_none_iff {digits room : Nat} {args : List Value}
    {part : FailurePart} :
    part.obstacle? (obstacles digits args .text room) (obstacles digits args .literal room) = none
      ↔ part ≠ .outside
        ∧ ∀ arg form, part.Holds args form arg → arg.obstacle? digits form room = none := by
  have hget (form : Form) (i : Nat) : (obstacles digits args form room).getD i none = none
      ↔ ∀ arg, args[i]? = some arg → arg.obstacle? digits form room = none := by
    rw [obstacles_eq_map, List.getD_eq_getElem?_getD, List.getElem?_map]
    cases args[i]? <;> simp
  cases part with
  | mark s => simp [FailurePart.obstacle?, FailurePart.Holds]
  | text i => simp only [FailurePart.obstacle?, hget]; simp [FailurePart.Holds]
  | literal i => simp only [FailurePart.obstacle?, hget]; simp [FailurePart.Holds]
  | tuple => simp [FailurePart.obstacle?, FailurePart.Holds, obstacles_eq_map]
  | outside => simp [FailurePart.obstacle?]

/-- Without room for what is inside, only the value itself can be in the way. -/
theorem obstacle?_zero_eq_none_iff {digits : Nat} {form : Form} {v : Value} :
    v.obstacle? digits form 0 = none ↔ v.IsWritable ⟨digits, 0⟩ 0 form := by
  cases v with
  | failure kind args => cases form <;> simp [obstacle?, Obstacle.inside, IsWritable]
  | object kind said shown => cases form <;> simp [obstacle?, IsWritable, raised?_eq_none_iff]
  | _ => simp [obstacle?, Obstacle.inside, IsWritable]

/-- **What is in the way of a value** is in its own way or in that of something
inside it. -/
theorem obstacle?_succ_eq_none_iff {digits room : Nat} {form : Form} {v : Value} :
    v.obstacle? digits form (room + 1) = none ↔ v.IsWritable ⟨digits, room + 1⟩ 0 form
      ∧ ∀ part f, Holds form v f part → part.obstacle? digits f room = none := by
  cases v with
  | list items | tuple items =>
    simp [obstacle?, Obstacle.inside, obstacles_eq_map, IsWritable, Holds]
  | dict entries =>
    simp only [obstacle?, Obstacle.inside, entryObstacles_eq_map, List.findSome?_map,
      List.findSome?_eq_none_iff, Function.comp_apply, id_eq, IsWritable, Holds]
    simpa using forall_comm
  | failure kind args =>
    cases form with
    | text =>
      simp only [obstacle?, Obstacle.inside, List.findSome?_eq_none_iff,
        FailurePart.obstacle?_eq_none_iff, IsWritable, Holds]
      constructor
      · intro h
        refine ⟨⟨room.succ_pos, fun _ hmem => (h _ hmem).1 rfl⟩, ?_⟩
        rintro part f ⟨shown, hshown, hholds⟩
        exact (h shown hshown).2 part f hholds
      · rintro ⟨⟨-, houtside⟩, h⟩ shown hshown
        exact ⟨fun heq => houtside trivial (heq ▸ hshown),
          fun part f hholds => h part f ⟨shown, hshown, hholds⟩⟩
    | literal =>
      simp only [obstacle?, Obstacle.inside, obstacles_eq_map, ← List.map_take, List.findSome?_map,
        List.findSome?_eq_none_iff, Function.comp_apply, id_eq, IsWritable, Holds]
      simp
  | object kind said shown =>
    cases form <;> simp [obstacle?, IsWritable, Holds, raised?_eq_none_iff]
  | _ => simp [obstacle?, IsWritable, Holds]

/-- **Nothing is in the way of a value exactly if it can be written.** -/
theorem obstacle?_eq_none_iff {limits : Limits} {form : Form} {v : Value} :
    v.obstacle? limits.digits form limits.depth = none ↔ v.Writes limits form := by
  obtain ⟨digits, room⟩ := limits
  dsimp only
  induction room generalizing form v with
  | zero => rw [obstacle?_zero_eq_none_iff, writes_zero_iff]
  | succ room ih => simp only [obstacle?_succ_eq_none_iff, writes_succ_iff, ih]

/-! ## Single values -/

end QuicTelemetry.Value
