import Mathlib.Data.List.Nodup
import Mathlib.Data.List.Pairwise
import QuicTelemetry.Proofs.Lists
import QuicTelemetry.Proofs.Store.Series
import QuicTelemetry.Store

/-!
# What a store shows of a counter or a gauge

The memory store is read by name and labels. A scraper reads the exposition
store, sample by sample; it finds the series of a counter or a gauge as the
sample with its exported name. The recorder keeps no series at all, but what
would be in one can be told from the requests: `Recorder.replay`.

That **a scraper finds a series if it exists and nothing else**
(`Exposition.sample?_exportedName`) rests on the names that families reserve:
the first sample with a name and labels is the right one as no other family
exports that name.
-/

namespace QuicTelemetry

/-! ## Samples -/

namespace Exposition

/-- The name of the sample of a counter or a gauge. -/
def exportedName (shape : Shape) (name : String) : String :=
  stem shape name ++ match shape with | .counter => "_total" | _ => ""

/-- The families by name and shape, oldest first. -/
def signature (e : Exposition) : List (String × Shape) :=
  e.families.entries.map fun entry => (entry.1, entry.2.shape)

/-- The families of a registry, by what they reserve. -/
theorem allReserved_eq (e : Exposition) :
    e.allReserved = e.signature.flatMap fun family => reserved family.2 family.1 := by
  unfold allReserved signature
  rw [List.flatMap_map]

/-- A family that is changed, but for its shape, reserves the same. -/
theorem signature_adjust (e : Exposition) (name : String)
    {change : Family ExposedCell → Family ExposedCell} (hkeeps : ∀ f, (change f).shape = f.shape) :
    signature { e with families := e.families.adjust name change } = e.signature := by
  unfold signature Table.adjust
  rw [List.map_map]
  refine List.map_congr_left fun entry _ => ?_
  dsimp only [Function.comp]
  split
  · rw [hkeeps]
  · rfl

/-- A family that is entered comes last. -/
theorem signature_enter (e : Exposition) (name help : String) (shape : Shape)
    (labels : List String) :
    (e.enter name help shape labels).signature = e.signature ++ [(name, shape)] := by
  unfold signature enter Table.push
  dsimp only
  rw [List.map_append, List.map_singleton]
  split
  · rw [Family.shape_ensure]
  · rfl

/-- **Families whose reserved names are not shared.** -/
def Apart (a b : String × Shape) : Prop := ∀ name ∈ reserved a.2 a.1, name ∉ reserved b.2 b.1

theorem Apart.symm {a b : String × Shape} (h : Apart a b) : Apart b a :=
  fun name hb ha => h name ha hb

theorem exportedName_mem_reserved {shape : Shape} (h : shape.isHistogram = false) (name : String) :
    exportedName shape name ∈ reserved shape name := by
  cases shape with
  | counter => exact List.mem_cons_of_mem _ List.mem_cons_self
  | gauge => exact List.mem_cons_self
  | histogram bounds => exact absurd h.symm Bool.false_ne_true

/-- A counter loses the end of its name and gets it back. -/
theorem stem_append {name : String} (h : name.endsWith "_total" = true) :
    String.ofList (name.toList.take (name.length - "_total".length)) ++ "_total" = name := by
  rw [String.endsWith_eq_endsWith_toSlice, String.Slice.endsWith_string_iff,
    String.copy_toSlice] at h
  obtain ⟨front, hfront⟩ := h
  have hlength : name.length - "_total".length = front.length := by
    rw [← String.length_toList, ← hfront, List.length_append, ← String.length_toList]
    exact Nat.add_sub_cancel ..
  rw [hlength, ← hfront, List.take_left, ← String.toList_inj, String.toList_append,
    String.toList_ofList]
  exact hfront

/-- **A family reserves its own name.** -/
theorem self_mem_reserved (shape : Shape) (name : String) : name ∈ reserved shape name := by
  cases shape with
  | counter =>
    by_cases h : name.endsWith "_total" = true
    · refine List.mem_map.mpr ⟨"_total", by simp [endings], ?_⟩
      show (if name.endsWith "_total" = true then _ else _) ++ "_total" = name
      rw [if_pos h]
      exact stem_append h
    · refine List.mem_map.mpr ⟨"", by simp [endings], ?_⟩
      show (if name.endsWith "_total" = true then _ else _) ++ "" = name
      rw [if_neg h, String.append_empty]
  | gauge => exact List.mem_map.mpr ⟨"", by simp [endings], String.append_empty⟩
  | histogram bounds => exact List.mem_map.mpr ⟨"", by simp [endings], String.append_empty⟩

/-- A registry that does not refuse a family has none of that name. -/
theorem get?_of_filter {e : Exposition} {name : String} {shape : Shape}
    (h : (reserved shape name).filter e.allReserved.contains = []) : e.families.get? name = none := by
  cases hfamily : e.families.get? name with
  | none => rfl
  | some family =>
    have hin : name ∈ e.allReserved :=
      List.mem_flatMap.mpr ⟨(name, family), Table.mem_entries_of_get? hfamily,
        self_mem_reserved family.shape name⟩
    have hnot := List.filter_eq_nil_iff.mp h name (self_mem_reserved shape name)
    exact absurd (List.contains_iff_mem.mpr hin) hnot

end Exposition

/-- **A family of single values**, one for each full list of label values. -/
def Family.IsScalar (family : Family ExposedCell) : Prop :=
  family.shape.isHistogram = false ∧ ∀ entry ∈ family.series.entries,
    entry.1.length = family.labels.length ∧ ∃ x, entry.2 = .value x

namespace Exposition

/-- The samples of counters and gauges, one for each series. -/
theorem familySamples_of_isScalar {name : String} {family : Family ExposedCell}
    (h : family.IsScalar) :
    familySamples name family = family.series.entries.map fun entry =>
      ⟨exportedName family.shape name, family.labelling entry.1,
        match entry.2 with | .value x => x | .histogram sum _ => sum⟩ := by
  obtain ⟨hshape, hentries⟩ := h
  unfold familySamples
  rw [List.map_eq_flatMap]
  refine List.flatMap_congr fun entry hentry => ?_
  obtain ⟨values, cell⟩ := entry
  obtain ⟨-, x, rfl⟩ := hentries _ hentry
  cases hs : family.shape with
  | counter => rfl
  | gauge => simp [exportedName]
  | histogram bounds =>
    rw [hs] at hshape
    exact absurd hshape.symm Bool.false_ne_true

/-- **The labels of a sample are found** exactly by its label values. -/
theorem matchesLabels_of {names values values' : List String} (hnames : names.Nodup)
    (hlength : values.length = names.length) (hlength' : values'.length = names.length)
    (name : String) (x : Binary64) :
    matchesLabels ⟨name, names.zip values', x⟩ (Labelling.of names values)
      = decide (values' = values) := by
  rw [Bool.eq_iff_iff, decide_eq_true_eq]
  unfold matchesLabels Labelling.of
  rw [Bool.and_eq_true, List.all_eq_true]
  constructor
  · rintro ⟨-, hall⟩
    refine List.ext_getElem (hlength'.trans hlength.symm) fun i hi' hi => ?_
    have hin : i < names.length := hlength ▸ hi
    have hmem : (names[i], Value.text values[i]) ∈
        (names.zip values).map fun label => (label.1, Value.text label.2) :=
      List.mem_map.mpr ⟨(names[i], values[i]),
        List.mem_iff_getElem.mpr ⟨i, by rw [List.length_zip]; omega, List.getElem_zip⟩, rfl⟩
    have hcontains := hall _ hmem
    rw [List.contains_iff_mem] at hcontains
    obtain ⟨j, hj, hpair⟩ := List.mem_iff_getElem.mp hcontains
    rw [List.getElem_zip, Prod.mk.injEq] at hpair
    obtain rfl : j = i := (hnames.getElem_inj_iff).mp hpair.1
    exact hpair.2
  · rintro rfl
    refine ⟨by simp, fun label hlabel => ?_⟩
    obtain ⟨pair, hpair, rfl⟩ := List.mem_map.mp hlabel
    rw [List.contains_iff_mem]
    exact hpair

/-- A series is found among the samples of its family. -/
theorem find?_familySamples {name : String} {family : Family ExposedCell} (h : family.IsScalar)
    (hnames : family.labels.Nodup) {values : List String}
    (hlength : values.length = family.labels.length) :
    ((familySamples name family).find? fun sample =>
        sample.name == exportedName family.shape name
          && matchesLabels sample (.of family.labels values)).map Sample.value
      = (family.cell? values).map fun cell =>
          match cell with | .value x => x | .histogram sum _ => sum := by
  rw [familySamples_of_isScalar h, List.find?_map, Option.map_map]
  show _ = ((family.series.entries.find? fun entry => decide (entry.1 = values)).map Prod.snd).map _
  rw [Option.map_map, ← List.head?_filter, ← List.head?_filter]
  refine congrArg (Option.map _) (congrArg List.head? (List.filter_congr fun entry hentry => ?_))
  obtain ⟨hlength', -⟩ := h.2 entry hentry
  show (exportedName family.shape name == exportedName family.shape name && _) = _
  rw [beq_self_eq_true, Bool.true_and]
  exact matchesLabels_of hnames hlength hlength' _ _

/-- What the bounds of a histogram add are samples of its buckets. -/
theorem name_of_mem_cumulated {name : String} {labels : List (String × String)}
    (pairs : List (Binary64 × Nat)) {acc : Nat × List Sample}
    (hacc : ∀ sample ∈ acc.2, sample.name = name ++ "_bucket") :
    ∀ sample ∈ (pairs.foldl (fun (acc : Nat × List Sample) (bound, n) =>
      (acc.1 + n, acc.2 ++ [⟨name ++ "_bucket",
        labels ++ [("le", bound.render .exposition)], (Binary64.ofInt? (acc.1 + n : Nat)).getD 0⟩]))
      acc).2, sample.name = name ++ "_bucket" := by
  induction pairs generalizing acc with
  | nil => exact hacc
  | cons pair pairs ih =>
    refine ih fun sample hsample => ?_
    rcases List.mem_append.mp hsample with hsample | hsample
    · exact hacc sample hsample
    · rw [List.mem_singleton.mp hsample]

/-- The samples of a histogram have the endings of one. -/
theorem name_of_mem_histogramSamples {name : String} {labels : List (String × String)}
    {bounds : List Binary64} {sum : Binary64} {counts : List Nat} {sample : Sample}
    (h : sample ∈ histogramSamples name labels bounds sum counts) :
    sample.name = name ++ "_bucket" ∨ sample.name = name ++ "_count"
      ∨ sample.name = name ++ "_sum" := by
  unfold histogramSamples at h
  dsimp only at h
  rcases List.mem_append.mp h with h | h
  · rcases List.mem_append.mp h with h | h
    · exact .inl (name_of_mem_cumulated _ (fun _ hmem => absurd hmem List.not_mem_nil) sample h)
    · exact .inr (.inl (by rw [List.mem_singleton.mp h]))
  · split at h
    · split at h
      · exact absurd h List.not_mem_nil
      · exact .inr (.inr (by rw [List.mem_singleton.mp h]))
    · exact .inr (.inr (by rw [List.mem_singleton.mp h]))

/-- The samples of a family have names that it reserves. -/
theorem name_mem_reserved {name : String} {family : Family ExposedCell} {sample : Sample}
    (hsample : sample ∈ familySamples name family) :
    sample.name ∈ reserved family.shape name := by
  have hending (ending : String) (h : ending ∈ endings family.shape) :
      stem family.shape name ++ ending ∈ reserved family.shape name := List.mem_map_of_mem h
  obtain ⟨⟨values, cell⟩, -, hsample⟩ := List.mem_flatMap.mp hsample
  dsimp only at hsample
  split at hsample
  · next hshape =>
    rw [List.mem_singleton.mp hsample]
    exact hending _ (by rw [hshape]; decide)
  · next hshape =>
    rw [List.mem_singleton.mp hsample, ← String.append_empty (s := stem family.shape name)]
    exact hending _ (by rw [hshape]; decide)
  · next hshape =>
    rcases name_of_mem_histogramSamples hsample with hname | hname | hname <;> rw [hname]
    all_goals exact hending _ (by rw [hshape]; simp [endings])
  · exact absurd hsample List.not_mem_nil

/-- **A scraper finds a series if it exists**, and no other in its place. -/
theorem sample?_exportedName {e : Exposition} (hapart : e.signature.Pairwise Apart)
    (hscalar : ∀ name family, e.families.get? name = some family → family.IsScalar)
    {name : String} {family : Family ExposedCell} (hfamily : e.families.get? name = some family)
    (hnames : family.labels.Nodup) {values : List String}
    (hlength : values.length = family.labels.length) :
    e.sample? (exportedName family.shape name) (.of family.labels values)
      = (family.cell? values).map fun cell =>
          match cell with | .value x => x | .histogram sum _ => sum := by
  have hmem : (name, family) ∈ e.families.entries := Table.mem_entries_of_get? hfamily
  rw [← find?_familySamples (hscalar _ _ hfamily) hnames hlength]
  unfold sample? samples
  rw [List.find?_flatMap]
  congr 1
  -- no other family has a sample of that name
  refine findSome?_of_unique hmem fun entry hentry hne => ?_
  rw [List.find?_eq_none]
  intro sample hsample hfound
  rw [Bool.and_eq_true, beq_iff_eq] at hfound
  have hother := name_mem_reserved hsample
  rw [hfound.1] at hother
  have hsymm : Std.Symm fun a b : String × Family ExposedCell =>
      Apart (a.1, a.2.shape) (b.1, b.2.shape) := ⟨fun _ _ h => h.symm⟩
  exact (List.pairwise_map.mp hapart).forall hmem hentry hne.symm _ 
    (exportedName_mem_reserved (hscalar _ _ hfamily).1 name) hother

end Exposition

/-! ## Memory -/

/-- The snapshot of a cell, if it is one of a histogram. -/
def MemoryCell.snapshot? (bounds : List Binary64) : MemoryCell → Option Snapshot
  | .histogram counts sum => some (.of bounds counts sum)
  | .value _ => none

namespace Memory

/-- The labels of a family are taken. -/
theorem seriesOf_of {family : Family MemoryCell} (name : String) (hnames : family.labels.Nodup)
    {values : List String} (hlength : values.length = family.labels.length) :
    seriesOf name family (.of family.labels values) = .ok ⟨name, values⟩ := by
  unfold seriesOf checkLabels
  have hsame : sameNames family.labels family.labels = true := (sameNames_iff _ _).mpr fun _ => .rfl
  rw [Labelling.names_of hlength, if_pos hsame, Labelling.values_of hnames hlength]
  rfl

/-- The value that a cell is read as. -/
def valueOf : Option MemoryCell → Binary64
  | some (.value x) => x
  | _ => 0

/-- The value of a series, by its family. -/
theorem value_eq (m : Memory) (name : String) (given : Labelling) :
    m.value name given
      = if given.clashes ["self", "name"] then .error .mistyped
        else match m.families.get? name with
          | none => .error (.notRegistered name)
          | some f =>
            if f.shape.isHistogram then .error (.isHistogram name)
            else (seriesOf name f given).map fun id => valueOf (f.cell? id.values) := by
  unfold value family
  cases given.clashes ["self", "name"] with
  | true => rfl
  | false =>
    cases m.families.get? name with
    | none => rfl
    | some f =>
      simp only [Bool.false_eq_true, if_false, bind, Except.bind]
      cases f.shape.isHistogram with
      | true => rfl
      | false =>
        simp only [Bool.false_eq_true, if_false]
        cases seriesOf name f given with
        | error fault => rfl
        | ok id =>
          show (match f.cell? id.values with
            | some (.value x) => Except.ok x
            | _ => .ok 0) = .ok (valueOf (f.cell? id.values))
          cases f.cell? id.values with
          | none => rfl
          | some cell => cases cell <;> rfl

/-- The snapshot of a series, by its family. -/
theorem histogram_eq (m : Memory) (name : String) (given : Labelling) :
    m.histogram name given
      = if given.clashes ["self", "name"] then .error .mistyped
        else match m.families.get? name with
          | none => .error (.notRegistered name)
          | some f =>
            match f.shape with
            | .histogram bounds => (seriesOf name f given).map fun id =>
                (f.cell? id.values).bind (MemoryCell.snapshot? bounds)
            | _ => .error (.isNoHistogram name) := by
  unfold histogram family
  cases given.clashes ["self", "name"] with
  | true => rfl
  | false =>
    cases m.families.get? name with
    | none => rfl
    | some f =>
      simp only [Bool.false_eq_true, if_false, bind, Except.bind]
      cases f.shape with
      | counter => rfl
      | gauge => rfl
      | histogram bounds =>
        dsimp only
        cases seriesOf name f given with
        | error fault => rfl
        | ok id =>
          dsimp only [Except.map]
          cases f.cell? id.values with
          | none => rfl
          | some cell => cases cell <;> rfl

/-- **The value of a series** is that of its cell, zero if there is none. -/
theorem value_of {m : Memory} {name : String} {family : Family MemoryCell}
    (hfamily : m.families.get? name = some family) (hshape : family.shape.isHistogram = false)
    (hnames : family.labels.Nodup) (hfree : ∀ label ∈ ["self", "name"], label ∉ family.labels)
    {values : List String} (hlength : values.length = family.labels.length) {x : Binary64}
    (hcell : (family.cell? values).getD (.value 0) = .value x) :
    m.value name (.of family.labels values) = .ok x := by
  rw [value_eq, Labelling.clashes_of hlength hfree, hfamily]
  simp only [Bool.false_eq_true, if_false, hshape, seriesOf_of name hnames hlength, Except.map]
  cases hc : family.cell? values with
  | none =>
    rw [hc] at hcell
    cases hcell
    rfl
  | some cell =>
    rw [hc] at hcell
    obtain rfl : cell = .value x := hcell
    rfl

/-- **The snapshot of a series** is that of its cell, if there is one. -/
theorem histogram_of {m : Memory} {name : String} {family : Family MemoryCell}
    (hfamily : m.families.get? name = some family) {bounds : List Binary64}
    (hshape : family.shape = .histogram bounds) (hnames : family.labels.Nodup)
    (hfree : ∀ label ∈ ["self", "name"], label ∉ family.labels) {values : List String}
    (hlength : values.length = family.labels.length) :
    m.histogram name (.of family.labels values)
      = .ok ((family.cell? values).bind (MemoryCell.snapshot? bounds)) := by
  rw [histogram_eq, Labelling.clashes_of hlength hfree, hfamily]
  simp only [Bool.false_eq_true, if_false, hshape, seriesOf_of name hnames hlength, Except.map]

end Memory

/-! ## Requests -/

/-- The number that a request brings to a series, if it does. -/
def MeterRequest.amount? (kind : InstrumentKind) (name : String) (attributes : Attributes) :
    MeterRequest → Option Binary64
  | .create .. => none
  | .measure kind' name' amount attributes' =>
    if kind' = kind ∧ name' = name ∧ attributes' = attributes then amount.toReal.toOption else none

namespace Recorder

/-- The numbers that were brought to a series, oldest first. -/
def amounts (r : Recorder) (kind : InstrumentKind) (name : String) (attributes : Attributes) :
    List Binary64 :=
  r.requests.filterMap (MeterRequest.amount? kind name attributes)

/-- **What would be in a series**: the last number that a gauge was set to, and
the sum of all numbers otherwise. -/
def replay (r : Recorder) (kind : InstrumentKind) (name : String) (attributes : Attributes) :
    Binary64 :=
  match kind with
  | .gauge => (r.amounts kind name attributes).getLast?.getD 0
  | _ => .sum (r.amounts kind name attributes)

/-- What one more request brings. -/
theorem amounts_push (r : Recorder) (request : MeterRequest) (kind : InstrumentKind) (name : String)
    (attributes : Attributes) :
    (⟨r.requests ++ [request]⟩ : Recorder).amounts kind name attributes
      = r.amounts kind name attributes ++ (request.amount? kind name attributes).toList := by
  unfold amounts
  rw [List.filterMap_append, List.filterMap_cons, List.filterMap_nil]
  cases request.amount? kind name attributes <;> rfl

/-- What a measurement brings to its own series. -/
theorem amounts_measure (r : Recorder) (kind : InstrumentKind) (name : String)
    (attributes : Attributes) {amount : Value} {x : Binary64} (h : amount.toReal = .ok x) :
    (⟨r.requests ++ [.measure kind name amount attributes]⟩ : Recorder).amounts kind name attributes
      = r.amounts kind name attributes ++ [x] := by
  rw [amounts_push, MeterRequest.amount?, if_pos ⟨rfl, rfl, rfl⟩, h]
  rfl

/-- A measurement brings nothing to another series. -/
theorem amounts_measure_of_ne (r : Recorder) {kind kind' : InstrumentKind} {name name' : String}
    {attributes attributes' : Attributes} (amount : Value)
    (h : ¬ (kind' = kind ∧ name' = name ∧ attributes' = attributes)) :
    (⟨r.requests ++ [.measure kind name amount attributes]⟩ : Recorder).amounts
        kind' name' attributes'
      = r.amounts kind' name' attributes' := by
  rw [amounts_push, MeterRequest.amount?, if_neg fun heq => h ⟨heq.1.symm, heq.2.1.symm, heq.2.2.symm⟩]
  exact List.append_nil _

theorem replay_of_amounts_eq_nil {r : Recorder} {kind : InstrumentKind} {name : String}
    {attributes : Attributes} (h : r.amounts kind name attributes = []) :
    r.replay kind name attributes = 0 := by
  unfold replay
  rw [h]
  cases kind <;> rfl

end Recorder

/-! ## Readings -/

/-- **What a store shows of a counter or a gauge.** A sample that is not there
is read as zero. -/
def Store.reading (store : Store) (shape : Shape) (name : String) (labels values : List String) :
    Except Fault Binary64 :=
  match store with
  | .memory m => m.value name (.of labels values)
  | .exposition e =>
    .ok ((e.sample? (Exposition.exportedName shape name) (.of labels values)).getD 0)
  | .recorder r => .ok (r.meter.replay shape.instrument name (labels.zip values))
  | .pipeline _ => .error .absent

end QuicTelemetry
