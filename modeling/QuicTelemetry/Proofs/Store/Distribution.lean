import QuicTelemetry.Proofs.Store.Buckets
import QuicTelemetry.Store.Pipeline

/-!
# What a histogram of the pipeline collects

An instrument keeps what was measured in two lots: since the last collection and
before it. A collection shows both together and makes them one. For a histogram
the counts of a lot are `tallied`, and **the counts of two lots add up to those of
all observations** (`zipWith_tallied`); so it does not matter when there were
collections (`Aggregate.Tallies`).

A measurement belongs to a series by its attributes, which are the labels sorted
by their names. `PipelineInstrument.Divides` says of a histogram that it has
divided the observations of every series by some bounds. A measurement and a
collection keep it so, and **what is collected then shows the observations**
(`PipelineInstrument.Divides.collect`).
-/

namespace QuicTelemetry

/-! ## Doing it for each -/

/-- **Something is done for each of a list**, or it fails where it fails for
one. -/
theorem mapM_cases {α β : Type} (f : α → Except Fault β) (l : List α) :
    (∃ made, l.mapM f = .ok made ∧ l.map f = made.map .ok)
      ∨ ∃ a ∈ l, ∃ fault, f a = .error fault ∧ l.mapM f = .error fault := by
  induction l with
  | nil => exact .inl ⟨[], rfl, rfl⟩
  | cons a l ih =>
    rw [List.mapM_cons]
    cases hfirst : f a with
    | error fault => exact .inr ⟨a, List.mem_cons_self, fault, hfirst, rfl⟩
    | ok b =>
      rcases ih with ⟨made, hmade, hmap⟩ | ⟨a', ha', fault, hfault, hmade⟩
      · refine .inl ⟨b :: made, ?_, ?_⟩
        · rw [hmade]
          rfl
        · rw [List.map_cons, hfirst, hmap, List.map_cons]
      · refine .inr ⟨a', List.mem_cons_of_mem _ ha', fault, hfault, ?_⟩
        rw [hmade]
        rfl

section Made

variable {α β : Type} {f : α → Except Fault β} {l : List α} {made : List β}

theorem exists_mem_of_map_eq (h : l.map f = made.map .ok) {b : β} (hb : b ∈ made) :
    ∃ a ∈ l, f a = .ok b := by
  have hmem : Except.ok b ∈ made.map (Except.ok (ε := Fault)) := List.mem_map_of_mem hb
  rw [← h] at hmem
  exact List.mem_map.mp hmem

theorem exists_made_of_map_eq (h : l.map f = made.map .ok) {a : α} (ha : a ∈ l) :
    ∃ b ∈ made, f a = .ok b := by
  have hmem : f a ∈ l.map f := List.mem_map_of_mem ha
  rw [h] at hmem
  obtain ⟨b, hb, heq⟩ := List.mem_map.mp hmem
  exact ⟨b, hb, heq.symm⟩

theorem getElem?_of_map_eq (h : l.map f = made.map .ok) {k : Nat} {a : α} (ha : l[k]? = some a) :
    ∃ b, made[k]? = some b ∧ f a = .ok b := by
  have hk : (l.map f)[k]? = some (f a) := by rw [List.getElem?_map, ha, Option.map_some]
  rw [h, List.getElem?_map] at hk
  obtain ⟨b, hb, heq⟩ := Option.map_eq_some_iff.mp hk
  exact ⟨b, hb, heq.symm⟩

/-- Results that show what they were made of, each. -/
theorem map_eq_of_map_eq {γ : Type} {image : β → γ} {source : α → γ}
    (hkeeps : ∀ a b, f a = .ok b → image b = source a) (h : l.map f = made.map .ok) :
    made.map image = l.map source := by
  induction l generalizing made with
  | nil =>
    cases made with
    | nil => rfl
    | cons b made => cases h
  | cons a l ih =>
    cases made with
    | nil => cases h
    | cons b made =>
      obtain ⟨hfirst, hrest⟩ := List.cons.inj h
      rw [List.map_cons, List.map_cons, hkeeps a b hfirst, ih hrest]

end Made

/-! ## Sums that fail -/

theorem Amount.toReal_cases (a : Amount) :
    (∃ x, a.toReal = .ok x) ∨ a.toReal = .error .overflow := by
  unfold toReal
  split
  · exact .inl ⟨_, rfl⟩
  · split
    · exact .inl ⟨_, rfl⟩
    · exact .inr rfl

/-- **Amounts can be added** unless a number is beyond the range. -/
theorem Amount.add_cases (a b : Amount) :
    (∃ sum, a.add b = .ok sum) ∨ a.add b = .error .overflow := by
  unfold add
  split
  · exact .inl ⟨_, rfl⟩
  · next x =>
    unfold addTo
    rcases toReal_cases b with ⟨y, hy⟩ | hfault
    · exact .inl ⟨_, by rw [hy]; rfl⟩
    · exact .inr (by rw [hfault]; rfl)
  · next i y =>
    rcases toReal_cases (.whole i) with ⟨x, hx⟩ | hfault
    · exact .inl ⟨_, by rw [hx]; rfl⟩
    · exact .inr (by rw [hfault]; rfl)

/-! ## Two lots of observations -/

/-- **The counts of two lots** add up to those of all observations. -/
theorem zipWith_tallied (bounds : List Binary64) (later earlier : List Amount) :
    (tallied bounds later).zipWith (· + ·) (tallied bounds earlier)
      = tallied bounds (earlier ++ later) := by
  induction bounds generalizing later earlier with
  | nil =>
    show [later.length + earlier.length] = [(earlier ++ later).length]
    rw [List.length_append, Nat.add_comm]
  | cons bound bounds ih =>
    unfold tallied
    rw [List.zipWith_cons_cons, ih, List.countP_append, List.filter_append, Nat.add_comm]

namespace Distribution

/-- **An observation is counted in its bucket**, unless the sum is beyond the
range. -/
theorem observe_cases (bounds : List Binary64) (d : Distribution) {v : Value} {a : Amount}
    (hv : Amount.ofValue? v = some a) :
    (∃ d', d.observe (bounds.map .real) v a = .ok d'
        ∧ d'.counts = countIn d.counts (bucketOf bounds a))
      ∨ d.observe (bounds.map .real) v a = .error .overflow := by
  unfold observe
  rcases d.sum.add_cases a with ⟨sum, hsum⟩ | hfault
  · refine .inl ⟨_, by rw [hsum]; rfl, ?_⟩
    have hless : (fun bound => Value.less (.real bound) v)
        = fun bound => (Amount.real bound).lt a := by
      funext bound
      unfold Value.less
      rw [hv]
      rfl
    unfold countIn bucketOf
    rw [List.takeWhile_map, List.length_map, ← hless]
    rfl
  · exact .inr (by rw [hfault]; rfl)

/-- **The distribution of two lots counts both**, unless the sum is beyond the
range. -/
theorem merge_cases (later earlier : Distribution) :
    (∃ total, later.merge earlier = .ok total
        ∧ total.counts = later.counts.zipWith (· + ·) earlier.counts)
      ∨ later.merge earlier = .error .overflow := by
  unfold merge
  rcases later.sum.add_cases earlier.sum with ⟨sum, hsum⟩ | hfault
  · exact .inl ⟨_, by rw [hsum]; rfl, rfl⟩
  · exact .inr (by rw [hfault]; rfl)

end Distribution

/-- **An aggregate that has divided some observations by bounds**, in two lots. -/
def Aggregate.Tallies (bounds : List Binary64) (seen : List Amount) : Aggregate → Prop
  | .distribution recent before =>
    ∃ earlier later, before.counts = tallied bounds earlier ∧ recent.counts = tallied bounds later
      ∧ seen = earlier ++ later
  | _ => False

namespace Aggregate.Tallies

variable {bounds : List Binary64} {seen : List Amount} {kept : Aggregate}

/-- **One more observation** is counted, unless the sum is beyond the range. -/
theorem aggregate (h : kept.Tallies bounds seen) {v : Value} {a : Amount}
    (hv : Amount.ofValue? v = some a) :
    (∃ after, Pipeline.aggregate (bounds.map .real) v a kept = .ok after
        ∧ after.Tallies bounds (seen ++ [a]))
      ∨ Pipeline.aggregate (bounds.map .real) v a kept = .error .overflow := by
  cases kept with
  | sum recent before => exact h.elim
  | last recent => exact h.elim
  | distribution recent before =>
    obtain ⟨earlier, later, hbefore, hrecent, rfl⟩ := h
    simp only [Pipeline.aggregate]
    rcases recent.observe_cases bounds hv with ⟨after, hafter, hcounts⟩ | hfault
    · rw [hafter]
      refine .inl ⟨_, rfl, earlier, later ++ [a], hbefore, ?_, List.append_assoc _ _ _⟩
      rw [hcounts, hrecent, tallied_append]
    · rw [hfault]
      exact .inr rfl

/-- **A collection shows both lots together** and makes them one, unless the sum
is beyond the range. -/
theorem collect (h : kept.Tallies bounds seen) :
    (∃ d after, Pipeline.collectOne (bounds.map .real) kept
          = .ok (some (.distribution (bounds.map .real) d), after)
        ∧ d.counts = tallied bounds seen ∧ after.Tallies bounds seen)
      ∨ Pipeline.collectOne (bounds.map .real) kept = .error .overflow := by
  cases kept with
  | sum recent before => exact h.elim
  | last recent => exact h.elim
  | distribution recent before =>
    obtain ⟨earlier, later, hbefore, hrecent, rfl⟩ := h
    simp only [Pipeline.collectOne]
    rcases recent.merge_cases before with ⟨total, htotal, hcounts⟩ | hfault
    · rw [hrecent, hbefore, zipWith_tallied] at hcounts
      rw [htotal]
      refine .inl ⟨total, _, rfl, hcounts, earlier ++ later, [], hcounts, ?_,
        (List.append_nil _).symm⟩
      rw [tallied_nil, List.length_map]
      rfl
    · rw [hfault]
      exact .inr rfl

end Aggregate.Tallies

/-! ## Attributes -/

/-- **The attributes of a series**: its labels, sorted by their names. -/
def Metric.attributes (metric : Metric) (values : List String) : Attributes :=
  (metric.labels.zip values).mergeSort fun a b => decide (¬ b.1 < a.1)

/-- Labels of distinct names tell their values in any order. -/
theorem eq_of_zip_perm {names values values' : List String} (hnames : names.Nodup)
    (hlength : values.length = names.length) (hlength' : values'.length = names.length)
    (hperm : (names.zip values).Perm (names.zip values')) : values = values' := by
  induction names generalizing values values' with
  | nil =>
    rw [List.eq_nil_of_length_eq_zero hlength, List.eq_nil_of_length_eq_zero hlength']
  | cons name names ih =>
    cases values with
    | nil => exact absurd hlength (by simp)
    | cons value values =>
      cases values' with
      | nil => exact absurd hlength' (by simp)
      | cons value' values' =>
        obtain ⟨hnot, hnames⟩ := List.nodup_cons.mp hnames
        -- the name is in front only
        obtain rfl : value = value' := by
          rcases List.mem_cons.mp (hperm.subset List.mem_cons_self) with heq | hmem
          · exact (Prod.mk.inj heq).2
          · exact absurd (List.of_mem_zip hmem).1 hnot
        rw [ih hnames (Nat.succ.inj hlength) (Nat.succ.inj hlength') hperm.cons_inv]

/-- **Series with the same attributes are one.** -/
theorem Metric.eq_of_attributes_eq {metric : Metric} (hlabels : metric.labels.Nodup)
    {values values' : List String} (hlength : values.length = metric.labels.length)
    (hlength' : values'.length = metric.labels.length)
    (h : metric.attributes values = metric.attributes values') : values = values' := by
  refine eq_of_zip_perm hlabels hlength hlength' ?_
  have hperm := List.mergeSort_perm (metric.labels.zip values) fun a b => decide (¬ b.1 < a.1)
  have hperm' := List.mergeSort_perm (metric.labels.zip values') fun a b => decide (¬ b.1 < a.1)
  have hsorted : (metric.labels.zip values).mergeSort (fun a b => decide (¬ b.1 < a.1))
      = (metric.labels.zip values').mergeSort fun a b => decide (¬ b.1 < a.1) := h
  rw [hsorted] at hperm
  exact hperm.symm.trans hperm'

/-! ## One instrument -/

/-- **An instrument that has taken a measurement**, and whether it failed. -/
def PipelineInstrument.measured (i : PipelineInstrument) (v : Value) (attributes : Attributes) :
    Except Fault Unit × PipelineInstrument :=
  match Amount.ofValue? v with
  | none => (.error .mistyped, i)
  | some a =>
    if i.id.kind ≠ .gauge ∧ a.isNegative then (.ok (), i)
    else
      let attributes := attributes.mergeSort fun a b => decide (¬ b.1 < a.1)
      let before := (i.aggregates.get? attributes).getD (Pipeline.fresh i)
      match Pipeline.aggregate i.bounds v a before with
      | .ok after => (.ok (), { i with aggregates := i.aggregates.put attributes after })
      | .error fault => (.error fault, { i with aggregates := i.aggregates.put attributes before })

/-- **A measurement changes one instrument.** -/
theorem Pipeline.measure_eq {p : Pipeline} {instrument : Instrument} {i : PipelineInstrument}
    (hi : p.instruments[instrument.place]? = some i) (v : Value) (attributes : Attributes) :
    p.measure instrument v attributes
      = ((i.measured v attributes).1,
        { p with instruments := p.instruments.set instrument.place (i.measured v attributes).2 }) := by
  have hsame : p.instruments.set instrument.place i = p.instruments := by
    obtain ⟨hplace, rfl⟩ := List.getElem?_eq_some_iff.mp hi
    exact List.set_getElem_self hplace
  unfold measure PipelineInstrument.measured
  rw [hi]
  cases Amount.ofValue? v with
  | none => simp only [hsame]
  | some a =>
    dsimp only
    split
    · simp only [hsame]
    · cases Pipeline.aggregate i.bounds v a
        ((i.aggregates.get? (attributes.mergeSort fun a b => decide (¬ b.1 < a.1))).getD
          (fresh i)) <;> rfl

/-- What a measurement leaves of an instrument. -/
theorem PipelineInstrument.measured_keeps (i : PipelineInstrument) (v : Value)
    (attributes : Attributes) :
    (i.measured v attributes).2.id = i.id ∧ (i.measured v attributes).2.name = i.name := by
  unfold measured
  split
  · exact ⟨rfl, rfl⟩
  · split
    · exact ⟨rfl, rfl⟩
    · dsimp only
      split <;> exact ⟨rfl, rfl⟩

/-- The observations of an amount: a histogram passes over negative ones. -/
def Amount.observations (a : Amount) : List Amount := if a.isNegative then [] else [a]

/-- **A histogram that has divided the observations of the series of a metric by
bounds.** -/
structure PipelineInstrument.Divides (metric : Metric) (bounds : List Binary64)
    (seen : List String → List Amount) (i : PipelineInstrument) : Prop where
  kind : i.id.kind = .histogram
  bounds_eq : i.bounds = bounds.map .real
  kept : ∀ attributes aggregate, (attributes, aggregate) ∈ i.aggregates.entries →
    ∃ values, values.length = metric.labels.length ∧ attributes = metric.attributes values
      ∧ aggregate.Tallies bounds (seen values)
  complete : ∀ values, seen values ≠ [] → metric.attributes values ∈ i.aggregates.keys

/-- **Points that show the observations of a metric**, divided by bounds. -/
structure Metric.ShownBy (metric : Metric) (bounds : List Binary64)
    (seen : List String → List Amount) (points : List Point) : Prop where
  counts : ∀ point ∈ points, ∃ values d, values.length = metric.labels.length
    ∧ point.attributes = metric.attributes values
    ∧ point.value = .distribution (bounds.map .real) d ∧ d.counts = tallied bounds (seen values)
  complete : ∀ values, seen values ≠ [] →
    ∃ point ∈ points, point.attributes = metric.attributes values

/-- **A series that was observed has a point**, which shows its observations. -/
theorem Metric.ShownBy.exists_point {metric : Metric} {bounds : List Binary64}
    {seen : List String → List Amount} {points : List Point} (h : metric.ShownBy bounds seen points)
    (hlabels : metric.labels.Nodup) {values : List String}
    (hlength : values.length = metric.labels.length) (hsome : seen values ≠ []) :
    ∃ point ∈ points, ∃ d, point.attributes = metric.attributes values
      ∧ point.value = .distribution (bounds.map .real) d ∧ d.counts = tallied bounds (seen values) := by
  obtain ⟨point, hpoint, hattributes⟩ := h.complete values hsome
  obtain ⟨values', d, hlength', hattributes', hvalue, hcounts⟩ := h.counts point hpoint
  have hvalues := Metric.eq_of_attributes_eq hlabels hlength hlength'
    (hattributes.symm.trans hattributes')
  refine ⟨point, hpoint, d, hattributes, hvalue, ?_⟩
  rw [hvalues]
  exact hcounts

namespace PipelineInstrument

variable {metric : Metric} {bounds : List Binary64} {seen seen' : List String → List Amount}
  {i : PipelineInstrument} {values : List String}

theorem Divides.congr (h : i.Divides metric bounds seen)
    (hseen : ∀ values, seen' values = seen values) : i.Divides metric bounds seen' := by
  have heq : seen' = seen := funext hseen
  rw [heq]
  exact h

/-- What is kept of a series. -/
theorem Divides.tallies (h : i.Divides metric bounds seen) (hlabels : metric.labels.Nodup)
    (hlength : values.length = metric.labels.length) :
    ((i.aggregates.get? (metric.attributes values)).getD (Pipeline.fresh i)).Tallies bounds
      (seen values) := by
  cases hget : i.aggregates.get? (metric.attributes values) with
  | some kept =>
    obtain ⟨values', hlength', hattributes, htallies⟩ :=
      h.kept _ _ (Table.mem_entries_of_get? hget)
    rw [Metric.eq_of_attributes_eq hlabels hlength hlength' hattributes]
    exact htallies
  | none =>
    have hnone : seen values = [] := Decidable.byContradiction fun hsome => by
      have hhas := (Table.has_iff_mem_keys _ _).mpr (h.complete values hsome)
      unfold Table.has at hhas
      rw [hget] at hhas
      exact absurd hhas Bool.false_ne_true
    have hfresh : (Distribution.none (i.bounds.length + 1)).counts = tallied bounds [] := by
      rw [tallied_nil, h.bounds_eq, List.length_map]
      rfl
    rw [hnone, Option.getD_none]
    unfold Pipeline.fresh
    rw [h.kind]
    exact ⟨[], [], hfresh, hfresh, rfl⟩

/-- The aggregate of one series is replaced. -/
theorem Divides.put (h : i.Divides metric bounds seen)
    (hlength : values.length = metric.labels.length) {aggregate : Aggregate} {now : List Amount}
    (haggregate : aggregate.Tallies bounds now) :
    PipelineInstrument.Divides metric bounds
      (fun values' => if values' = values then now else seen values')
      { i with aggregates := i.aggregates.put (metric.attributes values) aggregate } := by
  refine ⟨h.kind, h.bounds_eq, fun attributes other hmem => ?_, fun values' hsome => ?_⟩
  · rcases Table.mem_entries_put hmem with ⟨rfl, rfl⟩ | ⟨hne, hmem⟩
    · exact ⟨values, hlength, rfl, by rwa [if_pos rfl]⟩
    · obtain ⟨values', hlength', rfl, htallies⟩ := h.kept _ _ hmem
      have hvalues : values' ≠ values := fun heq => hne (by rw [heq])
      exact ⟨values', hlength', rfl, by rwa [if_neg hvalues]⟩
  · rw [Table.mem_keys_put]
    by_cases hvalues : values' = values
    · exact .inl (by rw [hvalues])
    · rw [if_neg hvalues] at hsome
      exact .inr (h.complete values' hsome)

/-- **A measurement of a histogram** is divided with the others of its series. If
it fails, nothing is. -/
theorem Divides.measured (h : i.Divides metric bounds seen) (hlabels : metric.labels.Nodup)
    (hlength : values.length = metric.labels.length) (v : Value) :
    (∃ a, Amount.ofValue? v = some a ∧ (i.measured v (metric.labels.zip values)).1 = .ok ()
        ∧ (i.measured v (metric.labels.zip values)).2.Divides metric bounds
          fun values' => if values' = values then seen values ++ a.observations else seen values')
      ∨ ∃ fault, (i.measured v (metric.labels.zip values)).1 = .error fault
        ∧ (i.measured v (metric.labels.zip values)).2.Divides metric bounds seen := by
  have hkind : i.id.kind ≠ .gauge := by
    rw [h.kind]
    decide
  unfold PipelineInstrument.measured
  cases hv : Amount.ofValue? v with
  | none => exact .inr ⟨_, rfl, h⟩
  | some a =>
    dsimp only
    cases hnegative : a.isNegative with
    | true =>
      rw [if_pos ⟨hkind, rfl⟩]
      refine .inl ⟨a, rfl, rfl, h.congr fun values' => ?_⟩
      by_cases hvalues : values' = values <;> simp [Amount.observations, hnegative, hvalues]
    | false =>
      rw [if_neg fun hboth => Bool.false_ne_true hboth.2]
      have htallies := h.tallies hlabels hlength
      have haggregate := htallies.aggregate hv
      rw [← h.bounds_eq] at haggregate
      unfold Metric.attributes at haggregate
      rcases haggregate with ⟨after, hafter, htallies'⟩ | hfault
      · rw [hafter]
        refine .inl ⟨a, rfl, rfl, ?_⟩
        unfold Amount.observations
        rw [hnegative, if_neg Bool.false_ne_true]
        exact h.put hlength htallies'
      · rw [hfault]
        refine .inr ⟨_, rfl, (h.put hlength htallies).congr fun values' => ?_⟩
        by_cases hvalues : values' = values <;> simp [hvalues]

end PipelineInstrument

/-! ## Collections -/

namespace Pipeline

/-- What an instrument shows for some attributes, and what it then keeps. -/
def collectEntry (i : PipelineInstrument) (entry : Attributes × Aggregate) :
    Except Fault (Option Point × Attributes × Aggregate) := do
  let (value, after) ← collectOne i.bounds entry.2
  return (value.map fun v => Point.mk i.name entry.1 v, (entry.1, after))

theorem collectEntry_of {i : PipelineInstrument} {entry : Attributes × Aggregate}
    {value : Option PointValue} {after : Aggregate}
    (h : collectOne i.bounds entry.2 = .ok (value, after)) :
    collectEntry i entry = .ok (value.map fun v => Point.mk i.name entry.1 v, (entry.1, after)) := by
  unfold collectEntry
  rw [h]
  rfl

/-- An aggregate can be collected unless a sum is beyond the range. -/
theorem collectOne_cases (bounds : List Value) (aggregate : Aggregate) :
    (∃ value after, collectOne bounds aggregate = .ok (value, after))
      ∨ collectOne bounds aggregate = .error .overflow := by
  cases aggregate with
  | sum recent before =>
    simp only [collectOne]
    rcases before.add_cases recent with ⟨total, htotal⟩ | hfault
    · exact .inl ⟨_, _, by rw [htotal]; rfl⟩
    · exact .inr (by rw [hfault]; rfl)
  | last recent => exact .inl ⟨_, _, rfl⟩
  | distribution recent before =>
    simp only [collectOne]
    rcases recent.merge_cases before with ⟨total, htotal, -⟩ | hfault
    · exact .inl ⟨_, _, by rw [htotal]; rfl⟩
    · exact .inr (by rw [hfault]; rfl)

/-- **An instrument is collected entry by entry**, unless a sum is beyond the
range. -/
theorem collectInstrument_cases (i : PipelineInstrument) :
    (∃ shown : List (Option Point × Attributes × Aggregate),
      i.aggregates.entries.map (collectEntry i) = shown.map .ok
        ∧ collectInstrument i
          = .ok (shown.filterMap Prod.fst, { i with aggregates := ⟨shown.map Prod.snd⟩ }))
      ∨ collectInstrument i = .error .overflow := by
  have hmap : collectInstrument i = (i.aggregates.entries.mapM (collectEntry i)).bind fun shown =>
      .ok (shown.filterMap Prod.fst, { i with aggregates := ⟨shown.map Prod.snd⟩ }) := rfl
  rw [hmap]
  rcases mapM_cases (collectEntry i) i.aggregates.entries with
    ⟨shown, hshown, hentries⟩ | ⟨entry, -, fault, hfault, hmapM⟩
  · exact .inl ⟨shown, hentries, by rw [hshown]; rfl⟩
  · rcases collectOne_cases i.bounds entry.2 with ⟨value, after, hvalue⟩ | hoverflow
    · rw [collectEntry_of hvalue] at hfault
      cases hfault
    · unfold collectEntry at hfault
      rw [hoverflow] at hfault
      obtain rfl := Except.error.inj hfault
      exact .inr (by rw [hmapM]; rfl)

/-- What is shown of an entry that was collected. -/
theorem exists_of_collectEntry {i : PipelineInstrument} {entry : Attributes × Aggregate}
    {shown : Option Point × Attributes × Aggregate} (h : collectEntry i entry = .ok shown) :
    ∃ value after, collectOne i.bounds entry.2 = .ok (value, after)
      ∧ shown = (value.map fun v => Point.mk i.name entry.1 v, (entry.1, after)) := by
  rcases collectOne_cases i.bounds entry.2 with ⟨value, after, hvalue⟩ | hoverflow
  · rw [collectEntry_of hvalue] at h
    exact ⟨value, after, hvalue, (Except.ok.inj h).symm⟩
  · unfold collectEntry at h
    rw [hoverflow] at h
    cases h

/-- What a collection leaves of an instrument, and the name of what it shows. -/
theorem collectInstrument_keeps {i i' : PipelineInstrument} {points : List Point}
    (h : collectInstrument i = .ok (points, i')) :
    i'.id = i.id ∧ i'.name = i.name ∧ ∀ point ∈ points, point.name = i.name := by
  rcases collectInstrument_cases i with ⟨shown, hentries, hcollect⟩ | hoverflow
  · obtain ⟨rfl, rfl⟩ := Prod.mk.inj (Except.ok.inj (hcollect.symm.trans h))
    refine ⟨rfl, rfl, fun point hpoint => ?_⟩
    obtain ⟨made, hmade, hpoint⟩ := List.mem_filterMap.mp hpoint
    obtain ⟨entry, -, hentry⟩ := exists_mem_of_map_eq hentries hmade
    obtain ⟨value, after, -, rfl⟩ := exists_of_collectEntry hentry
    obtain ⟨v, -, rfl⟩ := Option.map_eq_some_iff.mp hpoint
    rfl
  · rw [hoverflow] at h
    cases h

/-- **A pipeline is collected instrument by instrument**, unless a sum is beyond
the range. -/
theorem collect_cases (p : Pipeline) :
    (∃ collected : List (List Point × PipelineInstrument),
      p.instruments.map collectInstrument = collected.map .ok
        ∧ p.collect = (.ok ((collected.flatMap Prod.fst).mergeSort pointLe),
          { p with instruments := collected.map Prod.snd }))
      ∨ p.collect = (.error .overflow, p) := by
  unfold collect
  rcases mapM_cases collectInstrument p.instruments with
    ⟨collected, hcollected, hmap⟩ | ⟨i, -, fault, hfault, hmapM⟩
  · exact .inl ⟨collected, hmap, by rw [hcollected]⟩
  · rcases collectInstrument_cases i with ⟨shown, -, hshown⟩ | hoverflow
    · rw [hshown] at hfault
      cases hfault
    · rw [hoverflow] at hfault
      obtain rfl := Except.error.inj hfault
      exact .inr (by rw [hmapM])

end Pipeline

/-- **A histogram that is collected shows the observations**, and has them
divided as before. -/
theorem PipelineInstrument.Divides.collect {metric : Metric} {bounds : List Binary64}
    {seen : List String → List Amount} {i i' : PipelineInstrument} {points : List Point}
    (h : i.Divides metric bounds seen)
    (hcollect : Pipeline.collectInstrument i = .ok (points, i')) :
    i'.Divides metric bounds seen ∧ metric.ShownBy bounds seen points := by
  rcases Pipeline.collectInstrument_cases i with ⟨shown, hentries, heq⟩ | hoverflow
  · obtain ⟨rfl, rfl⟩ := Prod.mk.inj (Except.ok.inj (heq.symm.trans hcollect))
    -- what is shown of an entry, which belongs to a series
    have hmade : ∀ made ∈ shown, ∃ values d after, values.length = metric.labels.length
        ∧ made = (some ⟨i.name, metric.attributes values, .distribution (bounds.map .real) d⟩,
          (metric.attributes values, after))
        ∧ d.counts = tallied bounds (seen values) ∧ after.Tallies bounds (seen values) := by
      intro made hmem
      obtain ⟨⟨attributes, kept⟩, hentry, hmade⟩ := exists_mem_of_map_eq hentries hmem
      obtain ⟨values, hlength, rfl, htallies⟩ := h.kept _ _ hentry
      rcases htallies.collect with ⟨d, after, hone, hcounts, htallies'⟩ | hfault
      · rw [← h.bounds_eq] at hone
        rw [Pipeline.collectEntry_of hone] at hmade
        refine ⟨values, d, after, hlength, ?_, hcounts, htallies'⟩
        rw [← h.bounds_eq]
        exact (Except.ok.inj hmade).symm
      · rw [← h.bounds_eq] at hfault
        obtain ⟨value, after, hone, -⟩ := Pipeline.exists_of_collectEntry hmade
        rw [hfault] at hone
        cases hone
    have hcomplete : ∀ values, seen values ≠ [] → ∃ made ∈ shown,
        made.2.1 = metric.attributes values := by
      intro values hsome
      obtain ⟨entry, hentry, hkey⟩ := List.mem_map.mp (h.complete values hsome)
      obtain ⟨made, hmem, hmade⟩ := exists_made_of_map_eq hentries hentry
      obtain ⟨value, after, -, rfl⟩ := Pipeline.exists_of_collectEntry hmade
      exact ⟨_, hmem, hkey⟩
    refine ⟨⟨h.kind, h.bounds_eq, fun attributes aggregate hmem => ?_, fun values hsome => ?_⟩,
      fun point hpoint => ?_, fun values hsome => ?_⟩
    · obtain ⟨made, hmem, heq⟩ := List.mem_map.mp hmem
      obtain ⟨values, d, after, hlength, rfl, -, htallies⟩ := hmade made hmem
      obtain ⟨rfl, rfl⟩ := Prod.mk.inj heq
      exact ⟨values, hlength, rfl, htallies⟩
    · obtain ⟨made, hmem, hkey⟩ := hcomplete values hsome
      exact List.mem_map.mpr ⟨made.2, List.mem_map_of_mem hmem, hkey⟩
    · obtain ⟨made, hmem, hpoint⟩ := List.mem_filterMap.mp hpoint
      obtain ⟨values, d, after, hlength, rfl, hcounts, -⟩ := hmade made hmem
      obtain rfl := Option.some.inj hpoint
      exact ⟨values, d, hlength, rfl, rfl, hcounts⟩
    · obtain ⟨made, hmem, hkey⟩ := hcomplete values hsome
      obtain ⟨values', d, after, -, rfl, -, -⟩ := hmade made hmem
      exact ⟨_, List.mem_filterMap.mpr ⟨_, hmem, rfl⟩, hkey⟩
  · rw [hoverflow] at hcollect
    cases hcollect

end QuicTelemetry
