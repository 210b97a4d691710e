import QuicTelemetry.Proofs.Facade.Merging
import QuicTelemetry.Proofs.Store.Cumulative
import QuicTelemetry.Proofs.Store.Shapes

/-!
# One observation

Stores tell their series apart in ways of their own (`SeriesKey`), and keep different
things of them (`SeriesState`): the memory store a cell, a meter that writes down the
amounts it was told, and a pipeline two lots of observations. A pipeline knows nothing of
families, so two families that share an instrument share their series.

**A store takes one observation** of a series (`Store.Observes`) if that series has one
observation more, by that number, and no other series is changed. That is so in every
session over the memory store, over a meter that writes down and over a pipeline with any
views (`Session.Observable.call`), for every handle of a histogram and every number from
zero on. A pipeline can fail at a sum: at a whole number beyond the range of binary64, to
which no other number can be added. No such sum comes up unless whole numbers are observed
(`SessionAction.ObservesReals`).
-/

namespace QuicTelemetry

/-! ## Series -/

/-- The attributes of a measurement, sorted by their names. -/
def sortAttributes (attributes : Attributes) : Attributes :=
  attributes.mergeSort fun a b => decide (¬ b.1 < a.1)

/-- **A series, as its store tells it apart from others.** -/
inductive SeriesKey where
  /-- In memory: by its family and its label values. -/
  | cell (id : SeriesId)
  /-- With a meter that writes down: by what a request says. -/
  | requests (kind : InstrumentKind) (name : String) (attributes : Attributes)
  /-- In a pipeline: by the place of the instrument and the sorted attributes. -/
  | aggregate (place : Nat) (attributes : Attributes)

/-- **What a store keeps of a series.** -/
inductive SeriesState where
  /-- In memory: a cell. -/
  | cell (shape : Shape) (cell : MemoryCell)
  /-- With a meter that writes down: the amounts it was told, oldest first. -/
  | requests (amounts : List Binary64)
  /-- In a pipeline: an aggregate over the bounds of its instrument. -/
  | aggregate (bounds : List Value) (kept : Aggregate)

namespace SeriesState

/-- **The number of the observations** in a histogram. -/
def number : SeriesState → Nat
  | .cell _ (.histogram counts _) => total counts
  | .requests amounts => amounts.length
  | .aggregate _ (.distribution recent before) => total recent.counts + total before.counts
  | _ => 0

/-- **A histogram with one observation more.** There is a count for each bound and one
more, and a pipeline has nothing of a series before its first observation. -/
inductive Gains (x : Binary64) : Option SeriesState → SeriesState → Prop
  /-- In memory: one more in its bucket, and a greater sum. -/
  | cell {bounds : List Binary64} {counts : List Nat} {sum : Binary64} :
    counts.length = bounds.length + 1 →
    Gains x (some (.cell (.histogram bounds) (.histogram counts sum)))
      (.cell (.histogram bounds)
        (.histogram (countIn counts (bucketOf bounds (.real x))) (sum.add x)))
  /-- One more amount that was written down. -/
  | requests {amounts : List Binary64} : Gains x (some (.requests amounts)) (.requests (amounts ++ [x]))
  /-- The first one in a pipeline. -/
  | first {bounds : List Value} {d : Distribution} :
    (Distribution.none (bounds.length + 1)).observe bounds (.real x) (.real x) = .ok d →
    Gains x none (.aggregate bounds (.distribution d (.none (bounds.length + 1))))
  /-- A later one in a pipeline. -/
  | later {bounds : List Value} {recent before d : Distribution} :
    recent.counts.length = bounds.length + 1 →
    recent.observe bounds (.real x) (.real x) = .ok d →
    Gains x (some (.aggregate bounds (.distribution recent before)))
      (.aggregate bounds (.distribution d before))

end SeriesState

/-- One more is counted. -/
theorem total_modify {counts : List Nat} {k : Nat} (h : k < counts.length) :
    total (counts.modify k (· + 1)) = total counts + 1 := by
  induction counts generalizing k with
  | nil => exact absurd h (Nat.not_lt_zero k)
  | cons n counts ih =>
    cases k with
    | zero =>
      show (n + 1) + total counts = n + total counts + 1
      omega
    | succ k =>
      show n + total (counts.modify k (· + 1)) = n + total counts + 1
      rw [ih (Nat.lt_of_succ_lt_succ h)]
      omega

/-- A bucket that is found by going through the bounds is there. -/
theorem length_takeWhile_lt {α : Type} (bounds : List α) (below : α → Bool) {counts : List Nat}
    (h : counts.length = bounds.length + 1) : (bounds.takeWhile below).length < counts.length := by
  have hle := (bounds.takeWhile_sublist below).length_le
  omega

namespace Distribution

/-- **A distribution that has room for every number**: it has a count for each bucket, and
its sum is no whole number but zero. -/
structure HasRoom (buckets : Nat) (d : Distribution) : Prop where
  /-- There is a count for each bucket. -/
  counts : d.counts.length = buckets
  /-- Nothing, or no whole number, was added up. -/
  sum : d.sum = .whole 0 ∨ ∃ x, d.sum = .real x

theorem hasRoom_none (buckets : Nat) : (none buckets).HasRoom buckets :=
  ⟨List.length_replicate, .inl rfl⟩

/-- One more observation is one more in some bucket. -/
theorem counts_observe {bounds : List Value} {d d' : Distribution} {v : Value} {a : Amount}
    (h : d.observe bounds v a = .ok d') : ∃ below : Value → Bool,
      d'.counts = d.counts.modify (bounds.takeWhile below).length (· + 1) := by
  unfold observe at h
  cases hsum : d.sum.add a with
  | error fault =>
    rw [hsum] at h
    cases h
  | ok sum =>
    rw [hsum] at h
    cases h
    exact ⟨_, rfl⟩

variable {bounds : List Value} {d d' : Distribution}

theorem total_observe (hcounts : d.counts.length = bounds.length + 1) {v : Value} {a : Amount}
    (h : d.observe bounds v a = .ok d') : total d'.counts = total d.counts + 1 := by
  obtain ⟨below, heq⟩ := counts_observe h
  rw [heq, total_modify (length_takeWhile_lt bounds below hcounts)]

/-- **Where there is room a number is taken**, and there still is room. -/
theorem HasRoom.observe (h : d.HasRoom (bounds.length + 1)) (v : Value) (x : Binary64) :
    ∃ d', d.observe bounds v (.real x) = .ok d' ∧ d'.HasRoom (bounds.length + 1) := by
  obtain ⟨y, hy⟩ : ∃ y, d.sum.add (.real x) = .ok (.real y) := by
    rcases h.sum with hsum | ⟨z, hsum⟩
    · have hzero : Binary64.ofInt? 0 = some 0 := by decide +kernel
      rw [hsum, Amount.add, Amount.toReal_whole hzero]
      exact ⟨_, rfl⟩
    · rw [hsum]
      exact ⟨_, rfl⟩
  have hobserve : ∃ d', d.observe bounds v (.real x) = .ok d' ∧ d'.sum = .real y := by
    unfold Distribution.observe
    rw [hy]
    exact ⟨_, rfl, rfl⟩
  obtain ⟨d', hd', hsum⟩ := hobserve
  obtain ⟨below, hcounts⟩ := counts_observe hd'
  refine ⟨d', hd', ?_, .inr ⟨y, hsum⟩⟩
  rw [hcounts, List.length_modify]
  exact h.counts

end Distribution

/-- **One observation more** is one more of them. -/
theorem SeriesState.Gains.number {x : Binary64} {before : Option SeriesState} {after : SeriesState}
    (h : Gains x before after) : after.number = (before.map number).getD 0 + 1 := by
  cases h with
  | cell hcounts => exact total_modify (length_takeWhile_lt _ _ hcounts)
  | requests => exact List.length_append
  | @first bounds d hd =>
    have hroom := Distribution.hasRoom_none (bounds.length + 1)
    have hnone : total (Distribution.none (bounds.length + 1)).counts = 0 := by
      show total (List.replicate _ 0) = 0
      generalize bounds.length + 1 = buckets
      induction buckets with
      | zero => rfl
      | succ buckets ih => exact (Nat.zero_add _).trans ih
    show total d.counts + total (Distribution.none (bounds.length + 1)).counts = 0 + 1
    rw [Distribution.total_observe hroom.counts hd, hnone]
  | @later bounds recent before d hcounts hd =>
    show total d.counts + total before.counts = total recent.counts + total before.counts + 1
    rw [Distribution.total_observe hcounts hd]
    omega

namespace Store

/-- **The series of a handle.** -/
def key? (store : Store) (id : SeriesId) : Option SeriesKey :=
  match store with
  | .memory _ => some (.cell id)
  | .exposition _ => none
  | .recorder m => (m.families.get? id.family).map fun f =>
    .requests f.instrument.kind f.instrument.name (f.family.labelling id.values)
  | .pipeline m => (m.families.get? id.family).map fun f =>
    .aggregate f.instrument.place (sortAttributes (f.family.labelling id.values))

/-- **What is kept of a series.** -/
def state? : Store → SeriesKey → Option SeriesState
  | .memory m, .cell id => (m.families.get? id.family).bind fun f =>
    (f.cell? id.values).map (.cell f.shape)
  | .recorder m, .requests kind name attributes =>
    some (.requests (m.meter.amounts kind name attributes))
  | .pipeline m, .aggregate place attributes => (m.meter.instruments[place]?).bind fun i =>
    (i.aggregates.get? attributes).map (.aggregate i.bounds)
  | _, _ => none

/-- The number of the observations of a series. -/
def number (store : Store) (key : SeriesKey) : Nat :=
  ((store.state? key).map SeriesState.number).getD 0

/-- **A store that takes one observation** of a series. -/
structure Observes (store : Store) (key : SeriesKey) (x : Binary64) (store' : Store) : Prop where
  /-- The series has the number as one observation more. -/
  gains : ∃ state, store'.state? key = some state ∧ SeriesState.Gains x (store.state? key) state
  /-- It has one observation more. -/
  number : store'.number key = store.number key + 1
  /-- Every other series is as it was. -/
  others : ∀ other, other ≠ key → store'.state? other = store.state? other

/-- A series that gains an observation, and no other that is changed. -/
theorem Observes.of_gains {store store' : Store} {key : SeriesKey} {x : Binary64}
    {state : SeriesState} (hstate : store'.state? key = some state)
    (hgains : SeriesState.Gains x (store.state? key) state)
    (hothers : ∀ other, other ≠ key → store'.state? other = store.state? other) :
    store.Observes key x store' := by
  refine ⟨⟨state, hstate, hgains⟩, ?_, hothers⟩
  show ((store'.state? key).map SeriesState.number).getD 0 = _
  rw [hstate]
  exact hgains.number

end Store

/-! ## In memory -/

namespace Memory

variable {m : Memory} {id : SeriesId} {f : Family MemoryCell}

/-- A cell that was there is replaced. -/
theorem state?_setCell (hf : m.families.get? id.family = some f) {cell : MemoryCell}
    (hcell : f.cell? id.values = some cell) (now : MemoryCell) :
    (Store.memory (m.setCell id now)).state? (.cell id) = some (.cell f.shape now) := by
  show ((m.setCell id now).families.get? id.family).bind _ = _
  rw [get?_setCell, if_pos rfl, hf, Option.map_some, Option.bind_some, Family.cell?_adjust,
    if_pos rfl, hcell]
  rfl

/-- To replace a cell changes no other series. -/
theorem state?_setCell_of_ne (m : Memory) (now : MemoryCell) {key : SeriesKey}
    (hkey : key ≠ .cell id) :
    (Store.memory (m.setCell id now)).state? key = (Store.memory m).state? key := by
  cases key with
  | requests => rfl
  | aggregate => rfl
  | cell other =>
    show ((m.setCell id now).families.get? other.family).bind _
      = (m.families.get? other.family).bind _
    rw [get?_setCell]
    split
    · next hfamily =>
      have hvalues : other.values ≠ id.values := fun heq => hkey (by
        obtain ⟨family, values⟩ := other
        cases hfamily
        cases heq
        rfl)
      cases m.families.get? other.family with
      | none => rfl
      | some g =>
        rw [Option.map_some, Option.bind_some, Option.bind_some, Family.cell?_adjust, if_neg hvalues]
        rfl
    · rfl

/-- **An observation in memory**: the cell of the series is replaced. -/
theorem observes_call {bounds : List Binary64} (hascending : Ascending bounds)
    {counts : List Nat} {sum : Binary64}
    (hf : m.families.get? id.family = some f) (hshape : f.shape = .histogram bounds)
    (hcell : f.cell? id.values = some (.histogram counts sum))
    (hcounts : counts.length = bounds.length + 1) (x : Binary64) :
    (m.call id .observe [.real x]).1 = .ok ()
      ∧ (Store.memory m).Observes (.cell id) x (.memory (m.call id .observe [.real x]).2) := by
  have hstate : (Store.memory m).state? (.cell id)
      = some (.cell (.histogram bounds) (.histogram counts sum)) := by
    show (m.families.get? id.family).bind _ = _
    rw [hf, Option.bind_some, hcell, hshape]
    rfl
  rw [m.call_observe id hascending hf hshape hcell x]
  refine ⟨rfl, .of_gains (state?_setCell hf hcell _) ?_ fun other => state?_setCell_of_ne m _⟩
  rw [hstate, hshape]
  exact .cell hcounts

end Memory

namespace Metered

variable {M : Type} [Meter M]

/-- **An operation on the handle of a histogram**: an observation is forwarded as it is,
and there is no other operation. -/
theorem call_histogram {m : Metered M} {id : SeriesId} {f : MeteredFamily}
    {bounds : List Binary64} (hf : m.families.get? id.family = some f)
    (hshape : f.family.shape = .histogram bounds) (verb : Verb) (args : List Value) :
    m.call id verb args = match verb, args with
      | .observe, [v] => m.forward f.instrument v (f.family.labelling id.values)
      | .observe, _ => (.error .mistyped, m)
      | _, _ => (.error .absent, m) := by
  unfold call
  rw [hf]
  dsimp only
  rw [hshape]
  cases verb with
  | observe =>
    match args with
    | [v] => rfl
    | [] | _ :: _ :: _ => rfl
  | inc | dec | set => rfl

end Metered

/-! ## With a meter that writes down -/

/-- **An observation that is written down** is the last request of its series. -/
theorem Metered.observes_call_recorder {m : Metered Recorder} {id : SeriesId} {f : MeteredFamily}
    {bounds : List Binary64} (hf : m.families.get? id.family = some f)
    (hshape : f.family.shape = .histogram bounds) (x : Binary64) :
    (m.call id .observe [.real x]).1 = .ok ()
      ∧ (Store.recorder m).Observes
        (.requests f.instrument.kind f.instrument.name (f.family.labelling id.values)) x
        (.recorder (m.call id .observe [.real x]).2) := by
  rw [m.call_histogram hf hshape]
  refine ⟨rfl, .of_gains rfl ?_ fun other hother => ?_⟩
  · have hreal : (Value.real x).toReal = .ok x := rfl
    have hamounts := m.meter.amounts_measure f.instrument.kind f.instrument.name
      (f.family.labelling id.values) hreal
    show SeriesState.Gains x (some (.requests _)) (.requests (Recorder.amounts ⟨_ ++ [_]⟩ _ _ _))
    rw [hamounts]
    exact .requests
  · cases other with
    | cell => rfl
    | aggregate => rfl
    | requests kind name attributes =>
      refine congrArg (some ∘ SeriesState.requests) (m.meter.amounts_measure_of_ne (.real x) ?_)
      rintro ⟨rfl, rfl, rfl⟩
      exact hother rfl

/-! ## In a pipeline -/

/-- **An instrument that takes every number**, if it is a histogram: there is room in each
of its aggregates. -/
def PipelineInstrument.HasRoom (i : PipelineInstrument) : Prop :=
  i.id.kind = .histogram → ∀ attributes kept, i.aggregates.get? attributes = some kept →
    ∃ recent before, kept = .distribution recent before ∧ recent.HasRoom (i.bounds.length + 1)

namespace PipelineInstrument

variable {i : PipelineInstrument}

/-- **A number that is measured** with a histogram is one observation more for its
attributes. -/
theorem HasRoom.measured_real (h : i.HasRoom) (hkind : i.id.kind = .histogram) {x : Binary64}
    (hx : (Amount.real x).isNegative = false) (attributes : Attributes) :
    ∃ recent before d,
      (i.aggregates.get? (sortAttributes attributes)).getD (Pipeline.fresh i)
          = .distribution recent before
        ∧ recent.HasRoom (i.bounds.length + 1)
        ∧ recent.observe i.bounds (.real x) (.real x) = .ok d ∧ d.HasRoom (i.bounds.length + 1)
        ∧ i.measured (.real x) attributes = (.ok (), { i with
          aggregates := i.aggregates.put (sortAttributes attributes) (.distribution d before) }) := by
  obtain ⟨recent, before, hkept, hroom⟩ : ∃ recent before,
      (i.aggregates.get? (sortAttributes attributes)).getD (Pipeline.fresh i)
          = .distribution recent before
        ∧ recent.HasRoom (i.bounds.length + 1) := by
    cases hget : i.aggregates.get? (sortAttributes attributes) with
    | none =>
      have hfresh : Pipeline.fresh i
          = .distribution (.none (i.bounds.length + 1)) (.none (i.bounds.length + 1)) := by
        rw [Pipeline.fresh, hkind]
      exact ⟨_, _, hfresh, Distribution.hasRoom_none _⟩
    | some kept =>
      obtain ⟨recent, before, rfl, hroom⟩ := h hkind _ _ hget
      exact ⟨recent, before, rfl, hroom⟩
  obtain ⟨d, hd, hroom'⟩ := hroom.observe (.real x) x
  refine ⟨recent, before, d, hkept, hroom, hd, hroom', ?_⟩
  have hnot : ¬ (i.id.kind ≠ .gauge ∧ (Amount.real x).isNegative = true) := by simp [hx]
  have haggregate : Pipeline.aggregate i.bounds (.real x) (.real x) (.distribution recent before)
      = .ok (.distribution d before) := by
    rw [Pipeline.aggregate, hd]
    rfl
  unfold PipelineInstrument.measured
  rw [show Amount.ofValue? (.real x) = some (.real x) from rfl]
  unfold sortAttributes at hkept ⊢
  dsimp only
  rw [if_neg hnot, hkept, haggregate]

/-- **A measurement leaves room**, unless it is a whole number that a histogram is given. -/
theorem HasRoom.measured (h : i.HasRoom) {v : Value}
    (hv : i.id.kind = .histogram → ∀ n, Amount.ofValue? v ≠ some (.whole n))
    (attributes : Attributes) : (i.measured v attributes).2.HasRoom := by
  by_cases hkind : i.id.kind = .histogram
  · cases v with
    | real x =>
      cases hx : (Amount.real x).isNegative with
      | true =>
        have hskips : i.id.kind ≠ .gauge ∧ (Amount.real x).isNegative = true :=
          ⟨by rw [hkind]; decide, hx⟩
        have hsame : (i.measured (.real x) attributes).2 = i := by
          unfold PipelineInstrument.measured
          rw [show Amount.ofValue? (.real x) = some (.real x) from rfl]
          dsimp only
          rw [if_pos hskips]
        rw [hsame]
        exact h
      | false =>
        obtain ⟨recent, before, d, -, -, -, hroom, heq⟩ := h.measured_real hkind hx attributes
        rw [heq]
        intro _ attributes' kept hkept
        rw [Table.get?_put] at hkept
        split at hkept
        · exact ⟨d, before, (Option.some.inj hkept).symm, hroom⟩
        · exact h hkind attributes' kept hkept
    | int | bool => exact absurd rfl (hv hkind _)
    | _ => exact h
  · exact fun hkind' => absurd ((i.measured_keeps v attributes).1 ▸ hkind') hkind

end PipelineInstrument

/-- The instrument of a family is the one of its identity. -/
theorem Metered.IsFiled.exists_instrument {m : Metered Pipeline} (h : m.IsFiled) {name : String}
    {f : MeteredFamily} (hf : m.families.get? name = some f) :
    ∃ i, m.meter.instruments[f.instrument.place]? = some i ∧ i.id = f.identity name := by
  have hplaced := h.placed name f hf
  unfold Pipeline.ids at hplaced
  rw [List.getElem?_map] at hplaced
  exact Option.map_eq_some_iff.mp hplaced

/-- **A store over a pipeline that takes every number.** -/
structure Metered.IsObservable (m : Metered Pipeline) : Prop where
  /-- Its families are at their instruments. -/
  filed : m.IsFiled
  /-- There is room in the instruments. -/
  room : ∀ i ∈ m.meter.instruments, i.HasRoom

namespace Metered.IsObservable

variable {m : Metered Pipeline}

/-- A store over a pipeline that has no instrument yet. -/
theorem of_new (service : Value) (views : List View) :
    IsObservable { meter := { service, views } } :=
  ⟨isFiled_of_new (Pipeline.isOrderly_of_new rfl), fun _ hi => absurd hi List.not_mem_nil⟩

/-- **To register a family** makes no instrument, or one in which nothing was observed. -/
theorem register (h : m.IsObservable) (r : Registration) :
    ∃ m', ((Store.pipeline m).perform (.register r)).2 = .pipeline m' ∧ m'.IsObservable := by
  cases hshape : r.shape with
  | error fault =>
    rw [Store.perform_of_shape_error hshape]
    exact ⟨m, rfl, h⟩
  | ok shape =>
    rcases perform_register (m := m) hshape with ⟨-, hperform⟩ | ⟨hfree, result, hcreates, hperform⟩
    · rw [hperform]
      exact ⟨m, rfl, h⟩
    · rw [hperform]
      refine ⟨_, rfl, h.filed.serves (.asked hshape hfree hcreates), ?_⟩
      show ∀ i ∈ result.2.instruments, i.HasRoom
      cases hcreates with
      | found | lost | refused => exact h.room
      | made =>
        intro i hi
        rcases List.mem_append.mp hi with hi | hi
        · exact h.room i hi
        · obtain rfl := List.mem_singleton.mp hi
          exact fun _ _ _ hkept => nomatch hkept

theorem resolve (h : m.IsObservable) (name : String) (given : Labelling) :
    (m.resolve name given).2.IsObservable := by
  refine ⟨h.filed.serves (.idle rfl (m.sameBindings_resolve name given) :
    m.Serves (.resolve name given, .ok ()) _), ?_⟩
  rw [m.meter_resolve]
  exact h.room

/-- A measurement leaves room, unless it is a whole number that a histogram is given. -/
theorem measure (h : m.IsObservable) {instrument : Instrument} {i : PipelineInstrument}
    (hi : m.meter.instruments[instrument.place]? = some i) {v : Value}
    (hv : i.id.kind = .histogram → ∀ n, Amount.ofValue? v ≠ some (.whole n))
    (attributes : Attributes) :
    ∀ j ∈ (m.meter.measure instrument v attributes).2.instruments, j.HasRoom := by
  rw [Pipeline.measure_eq hi]
  intro j hj
  rcases List.mem_or_eq_of_mem_set hj with hj | rfl
  · exact h.room j hj
  · exact (h.room i (List.mem_of_getElem? hi)).measured hv _

/-- **An operation** leaves room, unless it observes a whole number. -/
theorem call (h : m.IsObservable) (id : SeriesId) {verb : Verb} {args : List Value}
    (hreal : verb = .observe → ∀ v, args = [v] → ∀ n, Amount.ofValue? v ≠ some (.whole n)) :
    (m.call id verb args).2.IsObservable := by
  refine ⟨h.filed.serves (.idle rfl (m.sameBindings_call id verb args) :
    m.Serves (.operate id verb args, .ok ()) _), ?_⟩
  cases hf : m.families.get? id.family with
  | none =>
    unfold Metered.call
    rw [hf]
    exact h.room
  | some f =>
    obtain ⟨i, hi, hid⟩ := h.filed.exists_instrument hf
    by_cases hhistogram : ∃ bounds, f.family.shape = .histogram bounds
    · obtain ⟨bounds, hshape⟩ := hhistogram
      rw [call_histogram hf hshape]
      split
      · exact h.measure hi (fun _ => hreal rfl _ rfl) _
      · exact h.room
      · exact h.room
    · have hkind : i.id.kind ≠ .histogram := by
        rw [hid]
        show f.family.shape.instrument ≠ .histogram
        cases hshape : f.family.shape with
        | counter | gauge => decide
        | histogram bounds => exact absurd ⟨bounds, hshape⟩ hhistogram
      rcases call_cases hf verb args with ⟨fault, hcall⟩ | ⟨argument, amount, m', -, hcall, hcases⟩
      · rw [hcall]
        exact h.room
      · have hmeter : m'.meter = m.meter := by
          rcases hcases with ⟨rfl, -⟩ | ⟨-, x, rfl⟩ <;> rfl
        rw [hcall]
        show ∀ j ∈ (m'.meter.measure f.instrument amount _).2.instruments, j.HasRoom
        rw [hmeter]
        exact h.measure hi (fun heq => absurd heq hkind) _

end Metered.IsObservable

namespace Metered

variable {m m' : Metered Pipeline} {i : PipelineInstrument} {place : Nat} {attributes : Attributes}
  {kept : Aggregate}

/-- An aggregate of an instrument is put in. -/
theorem state?_put (hi : m.meter.instruments[place]? = some i)
    (hput : m'.meter.instruments = m.meter.instruments.set place
      { i with aggregates := i.aggregates.put attributes kept }) :
    (Store.pipeline m').state? (.aggregate place attributes) = some (.aggregate i.bounds kept) := by
  show (m'.meter.instruments[place]?).bind _ = _
  rw [hput, List.getElem?_set_self (List.getElem?_eq_some_iff.mp hi).1, Option.bind_some,
    Table.get?_put, if_pos rfl]
  rfl

/-- To put in an aggregate changes no other series. -/
theorem state?_put_of_ne (hi : m.meter.instruments[place]? = some i)
    (hput : m'.meter.instruments = m.meter.instruments.set place
      { i with aggregates := i.aggregates.put attributes kept })
    {key : SeriesKey} (hkey : key ≠ .aggregate place attributes) :
    (Store.pipeline m').state? key = (Store.pipeline m).state? key := by
  cases key with
  | cell => rfl
  | requests => rfl
  | aggregate place' attributes' =>
    show (m'.meter.instruments[place']?).bind _ = (m.meter.instruments[place']?).bind _
    rw [hput]
    by_cases hplace : place' = place
    · subst hplace
      have hattributes : attributes' ≠ attributes := fun heq => hkey (heq ▸ rfl)
      rw [List.getElem?_set_self (List.getElem?_eq_some_iff.mp hi).1, hi, Option.bind_some,
        Option.bind_some, Table.get?_put, if_neg hattributes]
    · rw [List.getElem?_set_ne (Ne.symm hplace)]

/-- **An observation in a pipeline**: the aggregate of the series is replaced. -/
theorem observes_call_pipeline (h : m.IsObservable) {id : SeriesId} {f : MeteredFamily}
    {bounds : List Binary64} (hf : m.families.get? id.family = some f)
    (hshape : f.family.shape = .histogram bounds) {x : Binary64}
    (hx : (Amount.real x).isNegative = false) :
    (m.call id .observe [.real x]).1 = .ok ()
      ∧ (Store.pipeline m).Observes
        (.aggregate f.instrument.place (sortAttributes (f.family.labelling id.values))) x
        (.pipeline (m.call id .observe [.real x]).2) := by
  obtain ⟨i, hi, hid⟩ := h.filed.exists_instrument hf
  have hkind : i.id.kind = .histogram := by
    rw [hid]
    show f.family.shape.instrument = .histogram
    rw [hshape]
    rfl
  obtain ⟨recent, before, d, hkept, hroom, hd, -, hmeasured⟩ :=
    (h.room i (List.mem_of_getElem? hi)).measured_real hkind hx (f.family.labelling id.values)
  have hmeasure := Pipeline.measure_eq hi (.real x) (f.family.labelling id.values)
  rw [hmeasured] at hmeasure
  have hcall := call_histogram hf hshape .observe [.real x]
  have hput : (m.call id .observe [.real x]).2.meter.instruments
      = m.meter.instruments.set f.instrument.place { i with
        aggregates := i.aggregates.put (sortAttributes (f.family.labelling id.values))
          (.distribution d before) } := by
    rw [hcall]
    exact congrArg (fun measured => measured.2.instruments) hmeasure
  refine ⟨?_, .of_gains (state?_put hi hput) ?_ fun other => state?_put_of_ne hi hput⟩
  · rw [hcall]
    exact congrArg Prod.fst hmeasure
  · show SeriesState.Gains x ((m.meter.instruments[f.instrument.place]?).bind _) _
    rw [hi, Option.bind_some]
    cases hget : i.aggregates.get? (sortAttributes (f.family.labelling id.values)) with
    | none =>
      rw [hget, Option.getD_none, Pipeline.fresh, hkind] at hkept
      obtain ⟨rfl, rfl⟩ := Aggregate.distribution.inj hkept
      exact .first hd
    | some kept =>
      rw [hget, Option.getD_some] at hkept
      rw [hkept]
      exact .later hroom.counts hd

end Metered

/-! ## Sessions -/

/-- **An action that observes no whole number.** -/
def SessionAction.ObservesReals : SessionAction → Prop
  | .operate _ .observe (some v) => ∀ n, Amount.ofValue? v ≠ some (.whole n)
  | _ => True

theorem SessionAction.observesReals_real (handle : Nat) (verb : Verb) (x : Binary64) :
    ObservesReals (.operate handle verb (some (.real x))) := by
  cases verb with
  | observe => exact fun _ hn => nomatch hn
  | inc | dec | set => exact trivial

/-- **A new store**: in memory, over a meter that writes down, or over a pipeline with any
views. -/
inductive Store.IsNew : Store → Prop where
  /-- In memory. -/
  | memory : IsNew .ofMemory
  /-- Over a meter that writes down. -/
  | recorder : IsNew .ofRecorder
  /-- Over a pipeline. -/
  | pipeline (service : Value) (views : List View) : IsNew (.pipeline { meter := { service, views } })

namespace Session

/-- **A session in which numbers can be observed.** -/
def Observable (s : Session) : Prop :=
  match s.store with
  | .memory m => ∃ us, s.Told m us
  | .exposition _ => False
  | .recorder _ => True
  | .pipeline m => m.IsObservable

/-- In a session over a new store numbers can be observed. -/
theorem observable_of_isNew {store : Store} (h : store.IsNew) : Observable ⟨store, []⟩ := by
  cases h with
  | memory => exact ⟨_, told_start⟩
  | recorder => exact trivial
  | pipeline service views => exact .of_new service views

namespace Observable

variable {s : Session}

theorem of_recorder {m : Metered Recorder} (hstore : s.store = .recorder m) : s.Observable := by
  unfold Observable
  rw [hstore]
  exact trivial

theorem of_pipeline {m : Metered Pipeline} (hstore : s.store = .pipeline m)
    (h : m.IsObservable) : s.Observable := by
  unfold Observable
  rw [hstore]
  exact h

/-- A meter that writes down stays one. -/
theorem step_recorder (m : Metered Recorder) (handles : List SeriesId) (action : SessionAction) :
    (Session.step ⟨.recorder m, handles⟩ action).2.Observable := by
  have hstore := store_step ⟨.recorder m, handles⟩ action
  cases action with
  | register name help shape labels =>
    rcases (Store.recorder m).register_cases name help shape labels with ⟨fault, heq⟩ | ⟨shape', heq⟩
    · exact of_recorder (hstore.trans (congrArg Prod.snd heq))
    · exact of_recorder (hstore.trans (congrArg Prod.snd heq))
  | resolve => exact of_recorder hstore
  | operate handle verb argument =>
    dsimp only at hstore
    split at hstore <;> exact of_recorder hstore

/-- In a pipeline there is room after an action. -/
theorem step_pipeline {m : Metered Pipeline} (h : m.IsObservable) (handles : List SeriesId)
    {action : SessionAction} (haction : action.ObservesReals) :
    (Session.step ⟨.pipeline m, handles⟩ action).2.Observable := by
  have hstore := store_step ⟨.pipeline m, handles⟩ action
  cases action with
  | register name help shape labels =>
    obtain ⟨m', hperform, h'⟩ := h.register (shape.registration name help labels)
    rw [← Store.register_eq_perform] at hperform
    exact of_pipeline (hstore.trans hperform) h'
  | resolve name given => exact of_pipeline hstore (h.resolve name given)
  | operate handle verb argument =>
    dsimp only at hstore
    split at hstore
    · exact of_pipeline hstore h
    · next id hid =>
      refine of_pipeline hstore (h.call id fun hverb v hargs => ?_)
      subst hverb
      cases argument with
      | none => cases hargs
      | some w =>
        obtain rfl : w = v := (List.cons.inj hargs).1
        exact haction

/-- **An action leaves a session in which numbers can be observed**, unless it observes a whole
number. -/
theorem step (h : s.Observable) {action : SessionAction} (haction : action.ObservesReals) :
    (s.step action).2.Observable := by
  obtain ⟨store, handles⟩ := s
  cases store with
  | exposition e => exact h.elim
  | memory m =>
    obtain ⟨us, htold⟩ := h
    obtain ⟨m', htold', -⟩ := htold.step action
    generalize (Session.step ⟨.memory m, handles⟩ action).2 = s' at htold' ⊢
    obtain ⟨store, handles'⟩ := s'
    obtain rfl : store = .memory m' := htold'.store
    exact ⟨_, htold'⟩
  | recorder m => exact step_recorder m handles action
  | pipeline m => exact step_pipeline h handles haction

theorem after (h : s.Observable) {actions : List SessionAction}
    (hactions : ∀ action ∈ actions, action.ObservesReals) :
    (s.after actions).Observable := by
  induction actions generalizing s with
  | nil => exact h
  | cons action actions ih =>
    rw [List.forall_mem_cons] at hactions
    exact ih (h.step hactions.1) hactions.2

end Observable

/-- **A handle of a histogram takes one observation** of every number that is not below
zero. -/
theorem Observable.call {s : Session} (h : s.Observable) {id : SeriesId} (hid : id ∈ s.handles)
    {bounds : List Binary64} (hshape : s.store.shape? id.family = some (.histogram bounds))
    {x : Binary64} (hx : (Amount.real x).isNegative = false) :
    ∃ key, s.store.key? id = some key ∧ (s.store.call id .observe [.real x]).1 = .ok ()
      ∧ s.store.Observes key x (s.store.call id .observe [.real x]).2 := by
  obtain ⟨store, handles⟩ := s
  cases store with
  | exposition e => exact h.elim
  | memory m =>
    obtain ⟨us, htold⟩ := h
    have hascending := htold.ascending hshape
    obtain ⟨f, hf, hfamily⟩ := Option.map_eq_some_iff.mp hshape
    obtain ⟨vs, hvs⟩ := Option.isSome_iff_exists.mp (htold.handles id hid)
    have hcell : f.cell? id.values = some (.histogram
        (tallied bounds (vs.filterMap (Mutation.amountOf? .observe)))
        (Amount.summed (vs.filterMap (Mutation.amountOf? .observe)))) := by
      rw [htold.replays _ f hf, hvs, Option.map_some, hfamily,
        Memory.changed_histogram hascending]
    obtain ⟨hok, hobserves⟩ := Memory.observes_call hascending hf hfamily hcell (length_tallied _ _) x
    exact ⟨_, rfl, hok, hobserves⟩
  | recorder m =>
    obtain ⟨f, hf, hfamily⟩ := Option.map_eq_some_iff.mp hshape
    obtain ⟨hok, hobserves⟩ := Metered.observes_call_recorder hf hfamily x
    exact ⟨_, congrArg (Option.map _) hf, hok, hobserves⟩
  | pipeline m =>
    obtain ⟨f, hf, hfamily⟩ := Option.map_eq_some_iff.mp hshape
    obtain ⟨hok, hobserves⟩ := Metered.observes_call_pipeline h hf hfamily hx
    exact ⟨_, congrArg (Option.map _) hf, hok, hobserves⟩

end Session

end QuicTelemetry
