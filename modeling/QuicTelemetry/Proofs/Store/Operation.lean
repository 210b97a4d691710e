import QuicTelemetry.Proofs.Number.Exact
import QuicTelemetry.Proofs.Store.Reading
import QuicTelemetry.Proofs.Store.Session

/-!
# What an operation does to a single value

A counter or a gauge is a single value in every store, and `Shape.operated` is
what an operation makes of it. The stores have it in common but for one thing:
what is lowered by an amount, or raised by the opposite amount. That can only
show in the sign of a zero, so from the same number all of them get the same
number (`Shape.operated_same`).

Each store then has one lemma on its operations: it changes a single series to
the value of `Shape.operated`, or none if that fails. The lemmas have the same form
on purpose. Whoever compares the stores takes the three of them together with
`Shape.operated_same` and never looks into an operation again.

The two stores that keep values of their own are told from the recorder by what a
lemma has to know. The recorder keeps no value of a series at all, so what a series
shows is the replay of the requests for it; and it takes an integer of any size, where
the others refuse one beyond the range, which is why its lemma asks for arguments in
the range.
-/

namespace QuicTelemetry

/-! ## The value after an operation -/

/-- How a value is lowered by an amount. It is the only parameter that the stores need:
in everything else they do the same. -/
abbrev Lowering := Binary64 → Amount → Except Fault Binary64

/-- The amount is subtracted. -/
def Lowering.difference : Lowering := Amount.subFrom

/-- The opposite amount is added. -/
def Lowering.opposite : Lowering := fun x a => a.neg.addTo x

/-- What an operation makes of a single value, with its argument. The last case is the
one of a counter: it is the only other shape with a single value, and it can only be
raised. -/
def Shape.changed (lower : Lowering) (shape : Shape) (x : Binary64) (verb : Verb)
    (argument : Value) : Except Fault Binary64 :=
  match shape, verb with
  | .gauge, .inc => Amount.ofValue argument >>= Amount.addTo x
  | .gauge, .dec => Amount.ofValue argument >>= lower x
  | .gauge, _ => argument.toReal
  | _, _ =>
    Amount.ofValue argument >>= fun a =>
      if a.isNegative then .error .negativeIncrement else a.addTo x

/-- **What an operation makes of a single value**, if the shape has it. That is asked
before the arguments are looked at: an operation which a shape lacks is absent, however
it is called. -/
def Shape.operated (lower : Lowering) (shape : Shape) (x : Binary64) (verb : Verb)
    (args : List Value) : Except Fault Binary64 :=
  if shape.verbs.contains verb then verb.argument args >>= shape.changed lower x verb
  else .error .absent

/-- **The operations on a single value**: a counter is raised, a gauge is raised, lowered or
set. -/
theorem Shape.scalar_cases {shape : Shape} (hshape : shape.isHistogram = false) {verb : Verb}
    (hverb : shape.verbs.contains verb = true) :
    (shape = .counter ∧ verb = .inc)
      ∨ shape = .gauge ∧ (verb = .inc ∨ verb = .dec ∨ verb = .set) := by
  have hmem := List.contains_iff_mem.mp hverb
  cases shape with
  | counter => exact .inl ⟨rfl, List.mem_singleton.mp hmem⟩
  | gauge => exact .inr ⟨rfl, by simpa [verbs] using hmem⟩
  | histogram bounds => exact absurd hshape.symm Bool.false_ne_true

/-- **The same result**: the same fault, or the same number. Equality would be too much:
a gauge at negative zero that is lowered by the integer zero keeps its sign under the
difference and loses it under the sum. -/
inductive SameResult : Except Fault Binary64 → Except Fault Binary64 → Prop where
  /-- The same fault. -/
  | error (fault : Fault) : SameResult (.error fault) (.error fault)
  /-- The same number. -/
  | ok {x y : Binary64} (h : Binary64.SameNumber x y) : SameResult (.ok x) (.ok y)

theorem SameResult.refl (result : Except Fault Binary64) : SameResult result result := by
  cases result with
  | error fault => exact .error fault
  | ok x => exact .ok (.refl x)

/-- What comes before the value is looked at is the same in all the stores: reading the
argument, and refusing it. -/
theorem SameResult.bind {α : Type} (result : Except Fault α) {f g : α → Except Fault Binary64}
    (h : ∀ a, SameResult (f a) (g a)) : SameResult (result >>= f) (result >>= g) := by
  cases result with
  | error fault => exact .error fault
  | ok a => exact h a

/-- The same results leave the same number behind. -/
theorem SameResult.getD {r s : Except Fault Binary64} (h : SameResult r s) {x y : Binary64}
    (hxy : Binary64.SameNumber x y) :
    Binary64.SameNumber (r.toOption.getD x) (s.toOption.getD y) := by
  cases h with
  | error fault => exact hxy
  | ok h => exact h

theorem Amount.addTo_same {x y : Binary64} (h : Binary64.SameNumber x y) (a : Amount) :
    SameResult (a.addTo x) (a.addTo y) := by
  unfold Amount.addTo
  cases a.toReal with
  | error fault => exact .error fault
  | ok r => exact .ok (h.add_right r)

/-- **The two ways of lowering a value give the same number.** An integer is the one
point to look at: it is negated before it is rounded in one of them and after it in the
other, and both fail for the same integers. -/
theorem Lowering.same {x y : Binary64} (h : Binary64.SameNumber x y) (a : Amount) :
    SameResult (Lowering.difference x a) (Lowering.opposite y a) := by
  cases a with
  | real r => exact .ok (h.add_right r.neg)
  | whole i =>
    rcases Binary64.ofInt?_neg_cases i with ⟨hi, hneg⟩ | ⟨r, s, hi, hneg, hrs⟩
    · simp only [Lowering.difference, Lowering.opposite, Amount.subFrom, Amount.neg, Amount.addTo,
        Amount.toReal, hi, hneg]
      exact .error _
    · simp only [Lowering.difference, Lowering.opposite, Amount.subFrom, Amount.neg, Amount.addTo,
        Amount.toReal, hi, hneg]
      exact .ok (h.add hrs.symm)

/-- **From the same number an operation makes the same number**, in whichever
way it is lowered. A value that is set does not depend on the one before, so it is
even equal; one that is raised or lowered is the same number if the one before was. -/
theorem Shape.operated_same (shape : Shape) {x y : Binary64} (h : Binary64.SameNumber x y)
    (verb : Verb) (args : List Value) :
    SameResult (shape.operated .difference x verb args) (shape.operated .opposite y verb args) := by
  unfold operated
  split
  · refine .bind _ fun argument => ?_
    have hcount (a : Amount) : SameResult
        (if a.isNegative then .error .negativeIncrement else a.addTo x)
        (if a.isNegative then .error .negativeIncrement else a.addTo y) := by
      split
      · exact .error _
      · exact Amount.addTo_same h a
    cases shape with
    | gauge =>
      cases verb with
      | inc => exact .bind _ (Amount.addTo_same h)
      | dec => exact .bind _ (Lowering.same h)
      | set => exact .refl _
      | observe => exact .refl _
    | counter => exact .bind _ hcount
    | histogram bounds => exact .bind _ hcount
  · exact .error _

/-! ## Memory -/

/-- The fresh cell of a counter or a gauge shows zero. -/
theorem MemoryCell.fresh_of_scalar {shape : Shape} (h : shape.isHistogram = false) :
    fresh shape = .value 0 := by
  cases shape with
  | counter => rfl
  | gauge => rfl
  | histogram bounds => exact absurd h.symm Bool.false_ne_true

namespace Memory

/-- An operation of the memory store on a cell with a single value is the one of the
shape, with the difference. A cell that an operation fails on stays as it was. -/
theorem change_value {shape : Shape} (hshape : shape.isHistogram = false) {verb : Verb}
    (hverb : shape.verbs.contains verb = true) (x : Binary64) (argument : Value) :
    change shape (.value x) verb argument
      = match shape.changed .difference x verb argument with
        | .ok y => (.ok (), .value y)
        | .error fault => (.error fault, .value x) := by
  rcases Shape.scalar_cases hshape hverb with ⟨rfl, rfl⟩ | ⟨rfl, rfl | rfl | rfl⟩
  · unfold change Shape.changed
    cases Amount.ofValue argument with
    | error fault => rfl
    | ok a =>
      by_cases ha : a.isNegative = true
      · simp only [ha, if_true, bind, Except.bind]
      · simp only [ha, bind, Except.bind]
        rfl
  -- a gauge is raised, lowered or set without any check
  all_goals rfl

/-- A cell that is stored is the only thing that is written. -/
theorem writes_setCell {m : Memory} {id : SeriesId} {f : Family MemoryCell} {cell : MemoryCell}
    (hf : m.families.get? id.family = some f) (hcell : f.cell? id.values = some cell)
    (cell' : MemoryCell) : Writes m.families id cell' (m.setCell id cell').families := by
  show Writes _ _ _ (m.families.adjust id.family fun f => f.adjust id.values fun _ => cell')
  exact .adjust hf (.adjust hcell cell')

/-- **An operation on a single value** in the memory store: its answer, and the one
series that it writes. A failed operation is a write, too, of the value that was there,
so that there is a single statement for both. -/
theorem call_of_value {m : Memory} {id : SeriesId} {f : Family MemoryCell} {x : Binary64}
    (hf : m.families.get? id.family = some f) (hshape : f.shape.isHistogram = false)
    (hcell : f.cell? id.values = some (.value x)) (verb : Verb) (args : List Value) :
    (m.call id verb args).1 = (f.shape.operated .difference x verb args).map (fun _ => ())
      ∧ Writes m.families id (.value ((f.shape.operated .difference x verb args).toOption.getD x))
          (m.call id verb args).2.families := by
  have hread : m.cell? id = some (.value x) := by
    unfold cell?
    rw [hf]
    exact hcell
  unfold call Shape.operated argumentOf
  rw [hf, hread]
  by_cases hverb : f.shape.verbs.contains verb = true
  · simp only [hverb, if_true]
    cases verb.argument args with
    | error fault => exact ⟨rfl, .refl hf hcell⟩
    | ok argument =>
      simp only [change_value hshape hverb, bind, Except.bind]
      cases f.shape.changed .difference x verb argument with
      | error fault => exact ⟨rfl, writes_setCell hf hcell _⟩
      | ok y => exact ⟨rfl, writes_setCell hf hcell _⟩
  · simp only [hverb]
    exact ⟨rfl, .refl hf hcell⟩

end Memory

/-! ## Exposition -/

/-- The fresh cell of a counter or a gauge shows zero. -/
theorem ExposedCell.fresh_of_scalar {shape : Shape} (h : shape.isHistogram = false) :
    fresh shape = .value 0 := by
  cases shape with
  | counter => rfl
  | gauge => rfl
  | histogram bounds => exact absurd h.symm Bool.false_ne_true

namespace Exposition

/-- An operation of the exposition store on a cell with a single value is the one of the
shape, with the opposite amount. -/
theorem change_value {shape : Shape} (hshape : shape.isHistogram = false) {verb : Verb}
    (hverb : shape.verbs.contains verb = true) (x : Binary64) (argument : Value) :
    change shape (.value x) verb argument
      = match shape.changed .opposite x verb argument with
        | .ok y => (.ok (), .value y)
        | .error fault => (.error fault, .value x) := by
  rcases Shape.scalar_cases hshape hverb with ⟨rfl, rfl⟩ | ⟨rfl, rfl | rfl | rfl⟩
  · unfold change Shape.changed
    cases Amount.ofValue argument with
    | error fault => rfl
    | ok a =>
      by_cases ha : a.isNegative = true
      · simp only [ha, if_true, bind, Except.bind]
      · simp only [ha, bind, Except.bind]
        rfl
  -- a gauge is raised, lowered or set without any check
  all_goals rfl

/-- **A store in which one series shows a number**, and which is otherwise
another. Its signature has to be the same because a registration depends on it, long
after the operation. -/
structure Shows (e : Exposition) (id : SeriesId) (y : Binary64) (e' : Exposition) : Prop where
  claimed : e'.claimed = e.claimed
  signature : e'.signature = e.signature
  writes : Writes e.families id (.value y) e'.families
  scalar : ∀ g g', e.families.get? id.family = some g → e'.families.get? id.family = some g' →
    g.IsScalar → g'.IsScalar

theorem Shows.refl {e : Exposition} {id : SeriesId} {g : Family ExposedCell} {y : Binary64}
    (hg : e.families.get? id.family = some g) (hcell : g.cell? id.values = some (.value y)) :
    e.Shows id y e := by
  refine ⟨rfl, rfl, .refl hg hcell, fun g g' h h' hscalar => ?_⟩
  obtain rfl := Option.some.inj (h.symm.trans h')
  exact hscalar

/-- A change of one family that comes to one number. The shape of the family has to stay,
or the names that it reserves would be others. -/
theorem Shows.adjust {e : Exposition} {id : SeriesId} {g : Family ExposedCell} {y : Binary64}
    (hg : e.families.get? id.family = some g) {change : Family ExposedCell → Family ExposedCell}
    (hshape : ∀ g, (change g).shape = g.shape) (h : g.Changed id.values (.value y) (change g))
    (hscalar : g.IsScalar → (change g).IsScalar) :
    e.Shows id y { e with families := e.families.adjust id.family change } := by
  refine ⟨rfl, e.signature_adjust id.family hshape, .adjust hg h, fun g₀ g' hg₀ hg' h₀ => ?_⟩
  obtain rfl := Option.some.inj (hg.symm.trans hg₀)
  rw [Table.get?_adjust, if_pos rfl, hg] at hg'
  obtain rfl := Option.some.inj hg'
  exact hscalar h₀

/-- A family of single values stays one if a single value is stored in it. -/
theorem isScalar_adjust {g : Family ExposedCell} (h : g.IsScalar) (values : List String)
    (y : Binary64) : (g.adjust values fun _ => .value y).IsScalar := by
  refine ⟨h.1, fun entry hentry => ?_⟩
  obtain ⟨entry, hmem, rfl⟩ := List.mem_map.mp hentry
  split
  · exact ⟨(h.2 entry hmem).1, y, rfl⟩
  · exact h.2 entry hmem

/-- It stays one if a series is made, with as many values as it has labels. -/
theorem isScalar_ensure {g : Family ExposedCell} (h : g.IsScalar) {values : List String}
    (hlength : values.length = g.labels.length) (y : Binary64) :
    (g.ensure values (.value y)).IsScalar := by
  unfold Family.ensure
  split
  · exact h
  · refine ⟨h.1, fun entry hentry => ?_⟩
    rcases List.mem_append.mp hentry with hmem | hmem
    · exact h.2 entry hmem
    · obtain rfl := List.mem_singleton.mp hmem
      exact ⟨hlength, y, rfl⟩

theorem shows_setCell {e : Exposition} {id : SeriesId} {g : Family ExposedCell}
    {cell : ExposedCell} (hg : e.families.get? id.family = some g)
    (hcell : g.cell? id.values = some cell) (y : Binary64) :
    e.Shows id y (e.setCell id (.value y)) :=
  .adjust hg (fun _ => rfl) (.adjust hcell _) fun h => isScalar_adjust h _ _

/-- **An operation on a single value** in the exposition store, with one
argument at most: a counter takes a second one, the exemplar, which the other stores
refuse. -/
theorem call_of_value {e : Exposition} {id : SeriesId} {f : Family ExposedCell} {x : Binary64}
    (hf : e.families.get? id.family = some f) (hshape : f.shape.isHistogram = false)
    (hcell : f.cell? id.values = some (.value x)) (verb : Verb) (argument : Option Value) :
    let result := f.shape.operated .opposite x verb argument.toList
    (e.call id verb argument.toList).1 = result.map (fun _ => ())
      ∧ e.Shows id (result.toOption.getD x) (e.call id verb argument.toList).2 := by
  intro result
  have hread : e.cell? id = some (.value x) := by
    unfold cell?
    rw [hf]
    exact hcell
  -- an exemplar would be a second argument
  have hexemplar : splitExemplar f.shape argument.toList = (argument.toList, .null) := by
    cases f.shape <;> cases argument <;> rfl
  unfold call
  rw [hf, hread]
  by_cases hverb : f.shape.verbs.contains verb = true
  · have hresult : result
        = verb.argument argument.toList >>= f.shape.changed .opposite x verb := if_pos hverb
    simp only [hverb, Bool.not_true, Bool.false_eq_true, if_false, hexemplar, hresult]
    cases verb.argument argument.toList with
    | error fault => exact ⟨rfl, .refl hf hcell⟩
    | ok a =>
      simp only [change_value hshape hverb, bind, Except.bind]
      cases f.shape.changed .opposite x verb a with
      | error fault => exact ⟨rfl, shows_setCell hf hcell _⟩
      | ok y => exact ⟨rfl, shows_setCell hf hcell _⟩
  · have hresult : result = .error .absent := if_neg hverb
    rw [hresult]
    simp only [hverb]
    exact ⟨rfl, .refl hf hcell⟩

end Exposition

/-! ## Recorder -/

/-- An operation without an argument has one in the range: it raises or lowers by one. -/
theorem Value.inRange_of_argument {verb : Verb} {argument : Option Value}
    (hrange : ∀ v ∈ argument, v.InRange) {a : Value} (h : verb.argument argument.toList = .ok a) :
    a.InRange := by
  have hone : Value.InRange (.int 1) := by
    intro a ha
    cases ha
    exact ⟨1, Amount.toReal_whole Binary64.ofInt?_one⟩
  cases argument with
  | none =>
    cases verb with
    | inc =>
      cases h
      exact hone
    | dec =>
      cases h
      exact hone
    | set => cases h
    | observe => cases h
  | some v =>
    have hv : a = v := by
      cases verb <;> exact (Except.ok.inj h).symm
    rw [hv]
    exact hrange v rfl

namespace Metered

/-- **A store over a recorder in which one series shows a number**, and which is
otherwise another. The number is the replay of the requests. Of the running value
something is known for a gauge only, which computes the next value from it; a counter has
one that nothing reads. -/
structure Shows (m : Metered Recorder) (id : SeriesId) (f : MeteredFamily) (y : Binary64)
    (m' : Metered Recorder) : Prop where
  claimed : m'.claimed = m.claimed
  others : ∀ name, name ≠ id.family → m'.families.get? name = m.families.get? name
  family : ∃ f' running, m'.families.get? id.family = some f' ∧ f'.instrument = f.instrument
    ∧ f.family.Changed id.values running f'.family ∧ (f.family.shape = .gauge → running = y)
  replay : m'.meter.replay f.instrument.kind f.instrument.name (f.family.labelling id.values) = y
  elsewhere : ∀ kind name attributes,
    ¬ (kind = f.instrument.kind ∧ name = f.instrument.name
      ∧ attributes = f.family.labelling id.values) →
    m'.meter.amounts kind name attributes = m.meter.amounts kind name attributes

namespace Shows

variable {m : Metered Recorder} {id : SeriesId} {f : MeteredFamily} {running : Binary64}

/-- An operation that fails forwards nothing, so the replay is what it was. -/
theorem refl (hf : m.families.get? id.family = some f)
    (hcell : f.family.cell? id.values = some running)
    (hrunning : f.family.shape = .gauge → running
      = m.meter.replay f.instrument.kind f.instrument.name (f.family.labelling id.values)) :
    m.Shows id f
      (m.meter.replay f.instrument.kind f.instrument.name (f.family.labelling id.values)) m :=
  ⟨rfl, fun _ _ => rfl, ⟨f, running, hf, rfl, .refl hcell, hrunning⟩, rfl, fun _ _ _ _ => rfl⟩

/-- A series that was asked for shows what it did. If it is new, its running value is
zero, and so is the replay of no requests. -/
theorem ensure (hf : m.families.get? id.family = some f)
    (hrunning : f.family.shape = .gauge → (f.family.cell? id.values).getD 0
      = m.meter.replay f.instrument.kind f.instrument.name (f.family.labelling id.values)) :
    m.Shows id f
      (m.meter.replay f.instrument.kind f.instrument.name (f.family.labelling id.values))
      { m with families := m.families.adjust id.family fun f =>
          { f with family := f.family.ensure id.values 0 } } := by
  refine ⟨rfl, fun name hname => ?_, ⟨{ f with family := f.family.ensure id.values 0 }, _, ?_,
    rfl, .ensure _ _ _, hrunning⟩, rfl, fun _ _ _ _ => rfl⟩
  · show (m.families.adjust id.family _).get? name = _
    rw [Table.get?_adjust, if_neg hname]
  · show (m.families.adjust id.family _).get? id.family = _
    rw [Table.get?_adjust, if_pos rfl, hf]
    rfl

/-- **A counter shows the sum of what was forwarded**, so it forwards the amount and one
more is added at the end of the replay. -/
theorem forward (hf : m.families.get? id.family = some f)
    (hcell : f.family.cell? id.values = some running) (hshape : f.family.shape = .counter)
    (hkind : f.instrument.kind = .counter) {amount : Value} {x : Binary64}
    (hx : amount.toReal = .ok x) :
    m.Shows id f
      ((m.meter.replay f.instrument.kind f.instrument.name (f.family.labelling id.values)).add x)
      (m.forward f.instrument amount (f.family.labelling id.values)).2 := by
  refine ⟨rfl, fun _ _ => rfl, ⟨f, running, hf, rfl, .refl hcell, fun hgauge => ?_⟩, ?_, ?_⟩
  · rw [hshape] at hgauge
    exact absurd hgauge Shape.noConfusion
  · show Recorder.replay ⟨m.meter.requests ++ [_]⟩ _ _ _ = _
    unfold Recorder.replay
    rw [Recorder.amounts_measure _ _ _ _ hx, hkind]
    exact List.foldl_append
  · intro kind name attributes hne
    exact Recorder.amounts_measure_of_ne _ _ hne

/-- **A gauge shows what it was set to last**, so it forwards the value that it comes to
and keeps it as its running value. Requests of other series do not count, which is why
attributes take part in the replay. -/
theorem forwardValue (hf : m.families.get? id.family = some f)
    (hcell : f.family.cell? id.values = some running)
    (hkind : f.instrument.kind = .gauge) (y : Binary64) :
    m.Shows id f y
      ((m.setValue id y).forward f.instrument (.real y) (f.family.labelling id.values)).2 := by
  refine ⟨rfl, fun name hname => ?_, ⟨⟨f.instrument, f.family.adjust id.values fun _ => y⟩, y, ?_,
    rfl, .adjust hcell y, fun _ => rfl⟩, ?_, ?_⟩
  · show (m.families.adjust id.family _).get? name = _
    rw [Table.get?_adjust, if_neg hname]
  · show (m.families.adjust id.family _).get? id.family = _
    rw [Table.get?_adjust, if_pos rfl, hf]
    rfl
  · show Recorder.replay ⟨m.meter.requests ++ [_]⟩ _ _ _ = _
    unfold Recorder.replay
    rw [Recorder.amounts_measure _ _ _ _ rfl, hkind]
    simp only [List.getLast?_append, List.getLast?_singleton, Option.some_or, Option.getD_some]
  · intro kind name attributes hne
    exact Recorder.amounts_measure_of_ne _ _ hne

end Shows

/-- A gauge forwards the value it comes to, if it comes to one. -/
theorem forwardValue_eq {m : Metered Recorder} {id : SeriesId} {f : MeteredFamily}
    {running y : Binary64} (hf : m.families.get? id.family = some f)
    (hcell : f.family.cell? id.values = some running) (hkind : f.instrument.kind = .gauge)
    (hsame : m.Shows id f y m) (result : Except Fault Binary64) :
    (m.forwardValue id f.instrument (f.family.labelling id.values) result).1
        = result.map (fun _ => ())
      ∧ m.Shows id f (result.toOption.getD y)
          (m.forwardValue id f.instrument (f.family.labelling id.values) result).2 := by
  cases result with
  | error fault => exact ⟨rfl, hsame⟩
  | ok z => exact ⟨rfl, .forwardValue hf hcell hkind z⟩

/-- **An operation on a single value** over a recorder, with one argument at
most, which is in the range if it is an amount. Without the range the lemma would fail
for a counter: the recorder takes an integer of any size, and the stores that add it up
at once do not. A gauge has added it up before anything is forwarded. -/
theorem call_of_value {m : Metered Recorder} {id : SeriesId} {f : MeteredFamily}
    {running : Binary64} (hf : m.families.get? id.family = some f)
    (hshape : f.family.shape.isHistogram = false)
    (hkind : f.instrument.kind = f.family.shape.instrument)
    (hcell : f.family.cell? id.values = some running)
    (hrunning : f.family.shape = .gauge → running
      = m.meter.replay f.instrument.kind f.instrument.name (f.family.labelling id.values))
    (verb : Verb) {argument : Option Value} (hrange : ∀ v ∈ argument, v.InRange) :
    let y := m.meter.replay f.instrument.kind f.instrument.name (f.family.labelling id.values)
    let result := f.family.shape.operated .opposite y verb argument.toList
    (m.call id verb argument.toList).1 = result.map (fun _ => ())
      ∧ m.Shows id f (result.toOption.getD y) (m.call id verb argument.toList).2 := by
  intro y result
  have hsame := Shows.refl hf hcell hrunning
  obtain ⟨instrument, family⟩ := f
  unfold call
  rw [hf]
  by_cases hverb : family.shape.verbs.contains verb = true
  · have hresult : result
        = verb.argument argument.toList >>= family.shape.changed .opposite y verb := if_pos hverb
    rw [hresult]
    simp only [hverb, Bool.not_true, Bool.false_eq_true, if_false]
    cases ha : verb.argument argument.toList with
    | error fault => exact ⟨rfl, hsame⟩
    | ok a =>
      have ha := Value.inRange_of_argument hrange ha
      have hvalue : family.shape = .gauge → (family.cell? id.values).getD 0 = y := fun hs => by
        rw [show family.cell? id.values = some running from hcell]
        exact hrunning hs
      cases hs : family.shape with
      | counter =>
        -- the request has the argument itself, and its number is added at the replay
        simp only [Shape.changed, bind, Except.bind]
        cases hamount : Amount.ofValue a with
        | error fault => exact ⟨rfl, hsame⟩
        | ok amount =>
          by_cases hnegative : amount.isNegative = true
          · simp only [hnegative, if_true]
            exact ⟨rfl, hsame⟩
          · obtain ⟨x, hx⟩ := ha amount (Amount.ofValue?_of_ofValue hamount)
            simp only [hnegative, Amount.addTo, hx, bind, Except.bind]
            refine ⟨rfl, ?_⟩
            exact .forward hf hcell hs (hkind.trans (congrArg _ hs))
              ((Value.toReal_of_ofValue hamount).trans hx)
      | gauge =>
        have hforward := forwardValue_eq hf hcell (hkind.trans (congrArg _ hs)) hsame
        rw [hvalue hs]
        cases verb with
        | inc => exact hforward (Amount.ofValue a >>= Amount.addTo y)
        | dec => exact hforward (Amount.ofValue a >>= Lowering.opposite y)
        | set => exact hforward a.toReal
        | observe =>
          rw [hs] at hverb
          exact absurd hverb (by decide)
      | histogram bounds =>
        rw [show family.shape.isHistogram = true from congrArg _ hs] at hshape
        exact absurd hshape.symm Bool.false_ne_true
  · have hresult : result = .error .absent := if_neg hverb
    rw [hresult]
    simp only [hverb]
    exact ⟨rfl, hsame⟩

end Metered

end QuicTelemetry
