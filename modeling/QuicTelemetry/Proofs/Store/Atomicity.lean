import QuicTelemetry.Proofs.Store.Observations

/-!
# Operations that fail

An operation on a handle may fail for many reasons: the handle does not have it, it
takes one argument and got two, the argument is no number, an increment is negative,
a number is beyond the range. A counter or a gauge first makes the new value and then
takes it, so a failure leaves what was there (`Memory.change_of_error`).

A histogram counts first and adds up then. What it can compare but not add is a whole
number beyond the range of binary64, and **the observation of such a number fails and
is counted** (`Session.Told.call_of_overfills`). Every other operation that fails
leaves the store as it was, with all its series (`Session.failed_call_eq_iff`).
-/

namespace QuicTelemetry

/-! ## Changes that change nothing -/

/-- A table stays if the value of a key does, where keys come once. -/
theorem Table.adjust_eq_self {κ ν : Type} [DecidableEq κ] {t : Table κ ν} (h : t.keys.Nodup)
    {k : κ} {v : ν} (hv : t.get? k = some v) {f : ν → ν} (hf : f v = v) : t.adjust k f = t := by
  obtain ⟨entries⟩ := t
  unfold adjust
  refine congrArg Table.mk ((List.map_congr_left fun e he => ?_).trans (List.map_id _))
  split
  · next hkey =>
    have hvalue := Table.get?_of_mem_entries (t := ⟨entries⟩) h (k := e.1) (v := e.2) he
    rw [hkey, hv] at hvalue
    obtain rfl := Option.some.inj hvalue
    rw [hf]
    rfl
  · rfl

namespace Memory

variable {m : Memory} {id : SeriesId} {f : Family MemoryCell} {cell : MemoryCell}

/-- A store stays if a cell does. -/
theorem setCell_eq_self (h : m.IsDistinct) (hf : m.families.get? id.family = some f)
    (hcell : f.cell? id.values = some cell) : m.setCell id cell = m := by
  have hsame : (f.adjust id.values fun _ => cell) = f :=
    congrArg (fun series => { f with series })
      (Table.adjust_eq_self (h.series _ f hf) hcell rfl)
  exact congrArg Memory.mk (Table.adjust_eq_self h.names hf hsame)

end Memory

/-! ## Numbers beyond the range -/

/-- **An observation beyond the range**: of a whole number that is near to no
binary64 number, in a histogram. -/
def Shape.Overfills (shape : Shape) (verb : Verb) (args : List Value) (i : Int) : Prop :=
  shape.isHistogram = true ∧ verb = .observe ∧ args = [.int i] ∧ Binary64.ofInt? i = none

/-- Only whole numbers beyond the range cannot be added. -/
theorem Amount.addTo_eq_error {a : Amount} {x : Binary64} {fault : Fault}
    (h : a.addTo x = .error fault) : ∃ i, a = .whole i ∧ Binary64.ofInt? i = none := by
  unfold addTo toReal at h
  cases a with
  | real y => cases h
  | whole i =>
    refine ⟨i, rfl, ?_⟩
    dsimp only at h
    cases hi : Binary64.ofInt? i with
    | none => rfl
    | some y =>
      rw [hi] at h
      cases h

theorem Amount.addTo_of_beyond {i : Int} (h : Binary64.ofInt? i = none) (x : Binary64) :
    (whole i).addTo x = .error .overflow := by
  simp only [addTo, toReal, h]
  rfl

/-- What is beyond the range was given as a whole number. -/
theorem Value.eq_int_of_beyond {v : Value} {i : Int} (h : Amount.ofValue v = .ok (.whole i))
    (hi : Binary64.ofInt? i = none) : v = .int i := by
  cases v with
  | int j =>
    cases h
    rfl
  | bool b =>
    cases h
    cases b with
    | false => exact absurd (hi.symm.trans Binary64.ofInt?_zero) (Option.some_ne_none 0).symm
    | true => exact absurd (hi.symm.trans Binary64.ofInt?_one) (Option.some_ne_none 1).symm
  | real x => cases h
  | _ => cases h

/-! ## Cells -/

/-- **An operation that fails leaves the cell as it was**, but for an observation
beyond the range. -/
theorem Memory.change_of_error {shape : Shape} {cell : MemoryCell} {verb : Verb} {argument : Value}
    {fault : Fault} (h : (change shape cell verb argument).1 = .error fault) :
    (change shape cell verb argument).2 = cell ∨ ∃ i, shape.Overfills verb [argument] i := by
  -- a single value is taken when it was made
  have hvalue {cell : MemoryCell} {result : Except Fault Unit × MemoryCell}
      (made : Except Fault Binary64) (hok : ∀ x, made = .ok x → result.1 = .ok ())
      (herror : ∀ fault, made = .error fault → result.2 = cell)
      (hfails : result.1 = .error fault) : result.2 = cell := by
    cases made with
    | ok x => cases (hok x rfl).symm.trans hfails
    | error fault' => exact herror fault' rfl
  unfold change at h ⊢
  dsimp only at h ⊢
  split
  · next x =>
    dsimp only at h
    cases hamount : Amount.ofValue argument with
    | error fault' => exact .inl rfl
    | ok a =>
      rw [hamount] at h
      dsimp only at h ⊢
      split
      · exact .inl rfl
      · next hpositive =>
        rw [if_neg hpositive] at h
        exact .inl (hvalue (a.addTo x)
          (fun _ hmade => by rw [hmade]) (fun _ hmade => by rw [hmade]) h)
  · next x =>
    exact .inl (hvalue (Amount.ofValue argument >>= Amount.addTo x)
      (fun _ hmade => by rw [hmade]) (fun _ hmade => by rw [hmade]) h)
  · next x =>
    exact .inl (hvalue (Amount.ofValue argument >>= Amount.subFrom x)
      (fun _ hmade => by rw [hmade]) (fun _ hmade => by rw [hmade]) h)
  · exact .inl (hvalue argument.toReal
      (fun _ hmade => by rw [hmade]) (fun _ hmade => by rw [hmade]) h)
  · next bounds counts sum =>
    dsimp only at h
    cases hamount : Amount.ofValue argument with
    | error fault' => exact .inl rfl
    | ok a =>
      rw [hamount] at h
      dsimp only at h
      cases hsum : a.addTo sum with
      | ok x =>
        rw [hsum] at h
        cases h
      | error fault' =>
        obtain ⟨i, rfl, hi⟩ := Amount.addTo_eq_error hsum
        exact .inr ⟨i, rfl, rfl, by rw [Value.eq_int_of_beyond hamount hi], hi⟩
  · exact .inl rfl

/-- An observation takes one argument. -/
theorem Memory.args_of_observe {shape : Shape} {args : List Value} {v : Value}
    (h : argumentOf shape .observe args = .ok v) : args = [v] := by
  unfold argumentOf at h
  split at h
  · match args, h with
    | [_], rfl => rfl
  · cases h

/-! ## Snapshots with one observation more -/

/-- **A snapshot with one observation more** that was not added up. It is in each
bucket whose bound it is not above. -/
structure Snapshot.Counts (a : Amount) (before after : Snapshot) : Prop where
  buckets : after.buckets = before.buckets.map fun bucket =>
    (bucket.1, bucket.2 + if isAbove bucket.1 a then 0 else 1)
  count : after.count = before.count + 1
  sum : after.sum = before.sum

/-- One observation more, by what was observed before. -/
theorem Snapshot.counts_tallied_append {bounds : List Binary64} (h : Ascending bounds)
    (seen : List Amount) (a : Amount) (sum : Binary64) :
    Snapshot.Counts a (.of bounds (tallied bounds seen) sum)
      (.of bounds (tallied bounds (seen ++ [a])) sum) := by
  rw [snapshot_tallied h, snapshot_tallied h, List.length_append, List.length_singleton]
  refine ⟨?_, rfl, rfl⟩
  dsimp only
  rw [List.map_append, List.map_map, List.map_singleton, isAbove_infinite]
  refine congrArg (· ++ _) (List.map_congr_left fun bound _ => congrArg (Prod.mk bound) ?_)
  rw [List.countP_append, List.countP_singleton]
  cases isAbove bound a <;> rfl

namespace Session

variable {s : Session} {m : Memory} {us : Chronicle} {id : SeriesId} {shape : Shape}

/-- **An observation beyond the range fails and is counted**, but not added up. -/
theorem Told.call_of_overfills (h : s.Told m us) (hid : id ∈ s.handles)
    (hshape : s.store.shape? id.family = some shape) {verb : Verb} {args : List Value} {i : Int}
    (hover : shape.Overfills verb args i) :
    (s.store.call id verb args).1 = .error .overflow
      ∧ ∃ before after, s.store.shown? id = some (.histogram (some before))
        ∧ (s.store.call id verb args).2.shown? id = some (.histogram (some after))
        ∧ Snapshot.Counts (.whole i) before after := by
  obtain ⟨hhistogram, rfl, rfl, hi⟩ := hover
  obtain ⟨bounds, rfl⟩ : ∃ bounds, shape = .histogram bounds := by
    cases shape with
    | histogram bounds => exact ⟨bounds, rfl⟩
    | counter => cases hhistogram
    | gauge => cases hhistogram
  have hcall : s.store.call id .observe [.int i]
      = Store.put .memory (m.call id .observe [.int i]) := by
    rw [h.store]
    rfl
  have hargument : Memory.argumentOf (.histogram bounds) .observe [.int i] = .ok (.int i) := rfl
  obtain ⟨houtcome, htold, hcontinues⟩ := h.call hid hshape hargument
  have hshown := h.shown?_eq hid hshape
  have hshown' := htold.shown?_eq hid (hcontinues.shapes _ _ hshape)
  have hseen : ((us.add id ⟨.observe, .int i⟩).seen id).filterMap (Mutation.amountOf? .observe)
      = (us.seen id).filterMap (Mutation.amountOf? .observe) ++ [.whole i] := by
    rw [Chronicle.seen_add, if_pos rfl, List.filterMap_append]
    rfl
  rw [Memory.changed_histogram (h.ascending hshape)] at houtcome hshown hshown'
  rw [hseen] at hshown'
  generalize (us.seen id).filterMap (Mutation.amountOf? .observe) = seen at *
  have hbeyond := Amount.addTo_of_beyond hi (Amount.summed seen)
  have hsum : Amount.summed (seen ++ [.whole i]) = Amount.summed seen := by
    rw [Amount.summed_append, Binary64.accumulate, hbeyond]
    rfl
  rw [hsum] at hshown'
  rw [hcall]
  refine ⟨houtcome.trans ?_, _, _, hshown, hshown',
    Snapshot.counts_tallied_append (h.ascending hshape) seen _ _⟩
  have hamount : Amount.ofValue (.int i) = .ok (.whole i) := rfl
  unfold Memory.change
  dsimp only
  rw [hamount]
  dsimp only
  rw [hbeyond]

/-- **An operation that fails leaves everything as it was**, but for an observation
beyond the range. -/
theorem Told.call_eq_self (h : s.Told m us) (hshape : s.store.shape? id.family = some shape)
    {verb : Verb} {args : List Value} {fault : Fault}
    (hfails : (s.store.call id verb args).1 = .error fault) :
    (s.store.call id verb args).2 = s.store ∨ ∃ i, shape.Overfills verb args i := by
  obtain ⟨store, handles⟩ := s
  obtain rfl : store = .memory m := h.store
  change (m.call id verb args).1 = _ at hfails
  show Store.memory (m.call id verb args).2 = _ ∨ _
  rcases m.call_cases id verb args with
    ⟨fault', herror⟩ | ⟨f, cell, argument, hf, hcell, hargument, hchanged⟩
  · rw [herror]
    exact .inl rfl
  · obtain rfl : f.shape = shape := Option.some.inj ((congrArg (Option.map _) hf).symm.trans hshape)
    rw [hchanged] at hfails ⊢
    rcases Memory.change_of_error hfails with hsame | ⟨i, hhistogram, rfl, hint, hi⟩
    · rw [hsame, Memory.setCell_eq_self h.distinct hf hcell]
      exact .inl rfl
    · obtain rfl : argument = .int i := List.singleton_injective hint
      exact .inr ⟨i, hhistogram, rfl, Memory.args_of_observe hargument, hi⟩

/-- **An operation that fails leaves the store as it was**, exactly if it is no
observation beyond the range. Whatever a session over the memory store has done
before, and whichever operation is tried on one of its handles with whichever
arguments: if it fails, nothing has changed, unless a whole number beyond the range
of binary64 was observed in a histogram. Then the sum is as before, but there is one
observation more.

The numbers meant are those of `Value`: truth values, whole numbers and binary64. Decimals
and fractions of other kinds, which compare with a bound as well and cannot be added to a
binary64 either, are not among its kinds. -/
theorem failed_call_eq_iff (actions : List SessionAction) {id : SeriesId}
    (hid : id ∈ (after ⟨.ofMemory, []⟩ actions).handles) (verb : Verb) (args : List Value)
    {fault : Fault}
    (hfails : ((after ⟨.ofMemory, []⟩ actions).store.call id verb args).1 = .error fault) :
    let store := (after ⟨.ofMemory, []⟩ actions).store
    ∃ shape, store.shape? id.family = some shape
      ∧ ((store.call id verb args).2 = store ↔ ¬ ∃ i, shape.Overfills verb args i)
      ∧ ∀ i, shape.Overfills verb args i → fault = .overflow
        ∧ ∃ before after, store.shown? id = some (.histogram (some before))
          ∧ (store.call id verb args).2.shown? id = some (.histogram (some after))
          ∧ Snapshot.Counts (.whole i) before after := by
  intro store
  obtain ⟨m, h⟩ := told_after actions
  obtain ⟨shape, hshape⟩ := h.exists_shape hid
  refine ⟨shape, hshape, ⟨?_, (h.call_eq_self hshape hfails).resolve_right⟩, fun i hover => ?_⟩
  · rintro hsame ⟨i, hover⟩
    obtain ⟨-, before, after, hbefore, hafter, hcounts⟩ := h.call_of_overfills hid hshape hover
    change (store.call id verb args).2.shown? id = _ at hafter
    rw [hsame, show store.shown? id = _ from hbefore] at hafter
    cases hafter
    have hcount := hcounts.count
    omega
  · obtain ⟨hoverflow, hshots⟩ := h.call_of_overfills hid hshape hover
    exact ⟨Except.error.inj (hfails.symm.trans hoverflow), hshots⟩

/-- A counter that refuses a negative increment. -/
theorem failed_call_eq_negativeIncrement :
    let actions := [SessionAction.register "drops" "Drops." .counter [], .resolve "drops" [],
      .operate 0 .inc (some (.int 3))]
    let store := (after ⟨.ofMemory, []⟩ actions).store
    (∃ fault, (store.call ⟨"drops", []⟩ .inc [.int (-1)]).1 = .error fault)
      ∧ (store.call ⟨"drops", []⟩ .inc [.int (-1)]).2 = store := by
  intro actions store
  have hid : (⟨"drops", []⟩ : SeriesId) ∈ (after ⟨.ofMemory, []⟩ actions).handles := by
    decide +kernel
  have hrefused : (store.call ⟨"drops", []⟩ .inc [.int (-1)]).1.isOk = false := by decide +kernel
  cases houtcome : (store.call ⟨"drops", []⟩ .inc [.int (-1)]).1 with
  | ok _ =>
    rw [houtcome] at hrefused
    cases hrefused
  | error fault =>
    obtain ⟨shape, hshape, hsame, -⟩ := failed_call_eq_iff actions hid .inc [.int (-1)] houtcome
    refine ⟨⟨fault, rfl⟩, hsame.mpr ?_⟩
    rintro ⟨i, -, hobserve, -⟩
    cases hobserve

/-- **A number beyond the range is counted by a histogram** that fails to observe it. -/
theorem overfilled_histogram :
    let actions := [SessionAction.register "latency" "Seconds." (.histogram [1]) [],
      .resolve "latency" []]
    let store := (after ⟨.ofMemory, []⟩ actions).store
    (store.call ⟨"latency", []⟩ .observe [.int (10 ^ 309)]).1 = .error .overflow
      ∧ (store.call ⟨"latency", []⟩ .observe [.int (10 ^ 309)]).2.shown? ⟨"latency", []⟩
        ≠ store.shown? ⟨"latency", []⟩ := by
  intro actions store
  obtain ⟨m, h⟩ := told_after actions
  have hid : (⟨"latency", []⟩ : SeriesId) ∈ (after ⟨.ofMemory, []⟩ actions).handles := by
    decide +kernel
  have hshape : store.shape? "latency" = some (.histogram [1]) := by decide +kernel
  obtain ⟨hoverflow, before, after, hbefore, hafter, hcounts⟩ :=
    h.call_of_overfills (i := 10 ^ 309) hid hshape ⟨rfl, rfl, rfl, by decide +kernel⟩
  refine ⟨hoverflow, fun hsame => ?_⟩
  change store.shown? _ = _ at hbefore
  rw [show (store.call _ _ _).2.shown? _ = _ from hafter, hbefore] at hsame
  cases hsame
  have hcount := hcounts.count
  omega

end Session

end QuicTelemetry
