import QuicTelemetry.Proofs.Store.Simulation
import QuicTelemetry.Proofs.Store.Tally

/-!
# Histograms of the same observations

The memory store and the exposition store look for a bucket in different ways.
The one finds the first bucket whose bound is not below the observation
(`bisect_eq_bucketOf`), the other goes through the bounds to the first that is at or
above it. Numbers that compare are in the same bucket either way
(`Exposition.bucketOf?_eq`). What does not compare is in the first bucket of the one
and in no bucket of the other.

So **every count of the memory store is that of the exposition store and the
number of observations that do not compare** (`Session.histogram_shows_exposed`).
The samples of a histogram are those of its snapshot (`Snapshot.samples`), which
is how a count that is read in memory and a count that is scraped are compared.
-/

namespace QuicTelemetry

/-! ## Buckets -/

/-- Whether a number compares with others. -/
def Binary64.compares : Binary64 → Bool
  | .nan => false
  | _ => true

/-- Nothing lies above infinity. -/
theorem isAbove_infinite (a : Amount) : isAbove (.infinite false) a = false := by
  cases a with
  | whole i => rfl
  | real x => cases x <;> rfl

/-- What does not compare lies above nothing. -/
theorem isAbove_of_not_compares {x : Binary64} (h : x.compares = false) (bound : Binary64) :
    isAbove bound (.real x) = false := by
  cases x with
  | nan => cases bound <;> rfl
  | finite s m hm => cases h
  | infinite s => cases h

namespace Exposition

theorem isNan_real (x : Binary64) : bucketOf?.isNan (.real x) = !x.compares := by
  cases x <;> rfl

/-- **The buckets of the two stores**: the same for what compares, and none in
the exposition store for what does not. -/
theorem bucketOf?_eq (bounds : List Binary64) (x : Binary64) :
    bucketOf? bounds (.real x)
      = if x.compares then some (bucketOf bounds (.real x)) else none := by
  unfold bucketOf?
  rw [isNan_real]
  cases x.compares with
  | false => simp
  | true =>
    simp only [Bool.not_true, Bool.not_false, Bool.and_true, if_true]
    induction bounds with
    | nil =>
      rw [List.nil_append, List.findIdx?_singleton,
        show (Amount.real (.infinite false)).lt (.real x) = false from isAbove_infinite _]
      rfl
    | cons bound bounds ih =>
      rw [List.cons_append, List.findIdx?_cons, ih]
      unfold bucketOf
      rw [List.takeWhile_cons]
      cases (Amount.real bound).lt (.real x) <;> rfl

end Exposition

/-- Observations that do not compare are counted with every bound. -/
theorem countP_not_isAbove (bound : Binary64) (xs : List Binary64) :
    (xs.map Amount.real).countP (!isAbove bound ·)
      = ((xs.filter Binary64.compares).map Amount.real).countP (!isAbove bound ·)
        + xs.countP (!·.compares) := by
  induction xs with
  | nil => rfl
  | cons x xs ih =>
    rw [List.map_cons, List.countP_cons, ih, List.filter_cons, List.countP_cons]
    cases hx : x.compares with
    | false =>
      rw [isAbove_of_not_compares hx]
      simp only [Bool.not_false, if_true, Bool.false_eq_true, if_false]
      omega
    | true =>
      rw [if_pos rfl, List.map_cons, List.countP_cons]
      simp only [Bool.not_true, Bool.false_eq_true, if_false]
      omega

/-! ## Samples of a snapshot -/

/-- A count as a sample has it. -/
def Binary64.ofCount (n : Nat) : Binary64 := (ofInt? n).getD 0

/-- **The samples of a histogram that is read as a snapshot**: its counts, bound
by bound, how many observations there are, and their sum unless a bound is
negative. -/
def Snapshot.samples (shot : Snapshot) (name : String) (labels : List (String × String)) :
    List Sample :=
  shot.buckets.map (fun bucket =>
      ⟨name ++ "_bucket", labels ++ [("le", bucket.1.render .exposition)], .ofCount bucket.2⟩)
    ++ [⟨name ++ "_count", labels, .ofCount shot.count⟩]
    ++ if shot.buckets.head?.any (·.1.lt 0) then [] else [⟨name ++ "_sum", labels, shot.sum⟩]

/-- The snapshot with some more observations in its first bucket. -/
def Snapshot.raise (shot : Snapshot) (n : Nat) : Snapshot :=
  ⟨shot.buckets.map fun bucket => (bucket.1, bucket.2 + n), shot.sum, shot.count + n⟩

/-- **The samples of a histogram are those of its snapshot**, if it has a count for
each bound and one more. -/
theorem Exposition.histogramSamples_of_length (name : String) (labels : List (String × String))
    {bounds : List Binary64} {counts : List Nat} (hcounts : counts.length = bounds.length + 1)
    (sum : Binary64) :
    histogramSamples name labels bounds sum counts
      = (Snapshot.of bounds counts sum).samples name labels := by
  let sample (bound : Binary64) (n : Nat) : Sample :=
    ⟨name ++ "_bucket", labels ++ [("le", bound.render .exposition)], .ofCount n⟩
  have hfold (pairs : List (Binary64 × Nat)) (start : Nat) (before : List Sample) :
      pairs.foldl (fun acc pair => (acc.1 + pair.2, acc.2 ++ [sample pair.1 (acc.1 + pair.2)]))
          (start, before)
        = (start + total (pairs.map Prod.snd),
            before ++ ((pairs.map Prod.fst).zip (runningSums start (pairs.map Prod.snd))).map
              fun bucket => sample bucket.1 bucket.2) := by
    induction pairs generalizing start before with
    | nil => simp [total, runningSums]
    | cons pair pairs ih =>
      rw [List.foldl_cons, ih]
      simp [total, runningSums, Nat.add_assoc]
  have hlength : (bounds ++ [Binary64.infinite false]).length = counts.length := by
    rw [hcounts, List.length_append, List.length_singleton]
  have hfirst := List.map_fst_zip (Nat.le_of_eq hlength)
  have hsecond := List.map_snd_zip (Nat.le_of_eq hlength.symm)
  unfold histogramSamples Snapshot.samples
  have h := hfold ((bounds ++ [Binary64.infinite false]).zip counts) 0 []
  rw [hfirst, hsecond, Nat.zero_add, List.nil_append] at h
  -- whether a sum is shown depends on the first bound
  obtain ⟨n, rest, rfl⟩ := List.exists_cons_of_length_eq_add_one hcounts
  cases bounds <;> exact congrArg (fun shown : Nat × List Sample =>
    shown.2 ++ [⟨name ++ "_count", labels, .ofCount shown.1⟩] ++ _) h

theorem length_tallied (bounds : List Binary64) (seen : List Amount) :
    (tallied bounds seen).length = bounds.length + 1 := by
  induction bounds generalizing seen with
  | nil => rfl
  | cons bound bounds ih => rw [tallied, List.length_cons, ih, List.length_cons]

/-! ## Observing -/

/-- **An observation** in the memory store: one more in its bucket. -/
theorem Memory.call_observe {m : Memory} (id : SeriesId) {f : Family MemoryCell}
    {bounds : List Binary64} (hascending : Ascending bounds) {counts : List Nat} {sum : Binary64}
    (hf : m.families.get? id.family = some f) (hshape : f.shape = .histogram bounds)
    (hcell : f.cell? id.values = some (.histogram counts sum)) (x : Binary64) :
    m.call id .observe [.real x]
      = (.ok (), m.setCell id
          (.histogram (countIn counts (bucketOf bounds (.real x))) (sum.add x))) := by
  have hread : m.cell? id = some (.histogram counts sum) := by
    unfold cell?
    rw [hf]
    exact hcell
  unfold call
  rw [hf, hread, ← bisect_eq_bucketOf hascending]
  dsimp only
  rw [hshape]
  rfl

/-- **An observation** in the exposition store: one more in its bucket, if it has
one. -/
theorem Exposition.call_observe {e : Exposition} (id : SeriesId) {f : Family ExposedCell}
    {bounds : List Binary64} {counts : List Nat} {sum : Binary64}
    (hf : e.families.get? id.family = some f) (hshape : f.shape = .histogram bounds)
    (hcell : f.cell? id.values = some (.histogram sum counts)) (x : Binary64) :
    e.call id .observe [.real x]
      = (.ok (), e.setCell id (.histogram (sum.add x)
          (if x.compares then countIn counts (bucketOf bounds (.real x)) else counts))) := by
  have hread : e.cell? id = some (.histogram sum counts) := by
    unfold cell?
    rw [hf]
    exact hcell
  have hchange : change (.histogram bounds) (.histogram sum counts) .observe (.real x)
      = (.ok (), .histogram (sum.add x)
          (if x.compares then countIn counts (bucketOf bounds (.real x)) else counts)) := by
    have hamount : Amount.ofValue (.real x) = .ok (.real x) := rfl
    have hsum : (Amount.real x).addTo sum = .ok (sum.add x) := rfl
    simp only [change, hamount, hsum, bucketOf?_eq]
    cases x.compares <;> rfl
  unfold call
  rw [hf, hread]
  dsimp only
  rw [hshape]
  simp only [Shape.verbs, splitExemplar, Verb.argument, hchange]
  rfl

/-! ## Stores with one series -/

/-- The table with one key. -/
def Table.single {κ ν : Type} (k : κ) (v : ν) : Table κ ν := ⟨[(k, v)]⟩

namespace Table

variable {κ ν : Type} [DecidableEq κ]

@[simp] theorem get?_single (k : κ) (v : ν) : (single k v).get? k = some v := by
  simp [get?, single]

@[simp] theorem adjust_single (k : κ) (v : ν) (f : ν → ν) :
    (single k v).adjust k f = single k (f v) := by
  simp [adjust, single]

end Table

/-- The families of a store with one series. -/
def Table.ofSeries {Cell : Type} (name help : String) (shape : Shape)
    (labels values : List String) (cell : Cell) : Table String (Family Cell) :=
  .single name { help, shape, labels, series := .single values cell }

/-- **What a session observes** in a histogram of its own. -/
def Session.observing (xs : List Binary64) : List SessionAction :=
  xs.map fun x => .operate 0 .observe (some (.real x))

/-- Observations in a store that is told by what it has seen. -/
theorem Session.after_observing {id : SeriesId} (store : List Amount → Binary64 → Store)
    (note : Binary64 → List Amount)
    (hcall : ∀ seen sum x, (store seen sum).call id .observe [.real x]
      = (.ok (), store (seen ++ note x) (sum.add x)))
    (seen : List Amount) (sum : Binary64) (xs : List Binary64) :
    after ⟨store seen sum, [id]⟩ (observing xs)
      = ⟨store (seen ++ xs.flatMap note) (xs.foldl Binary64.add sum), [id]⟩ := by
  induction xs generalizing seen sum with
  | nil =>
    rw [List.flatMap_nil, List.append_nil]
    rfl
  | cons x xs ih =>
    have hstep : ((⟨store seen sum, [id]⟩ : Session).step (.operate 0 .observe (some (.real x)))).2
        = ⟨store (seen ++ note x) (sum.add x), [id]⟩ := by
      show (⟨((store seen sum).call id .observe [.real x]).2, [id]⟩ : Session) = _
      rw [hcall]
    rw [List.flatMap_cons, ← List.append_assoc]
    show after (Session.step _ _).2 (observing xs) = _
    rw [hstep]
    exact ih _ _

theorem Session.after_append (s : Session) (actions actions' : List SessionAction) :
    s.after (actions ++ actions') = (s.after actions).after actions' := List.foldl_append

/-- What is noted of observations if only what compares is. -/
theorem flatMap_compares (xs : List Binary64) :
    xs.flatMap (fun x => if x.compares then [Amount.real x] else [])
      = (xs.filter Binary64.compares).map .real := by
  induction xs with
  | nil => rfl
  | cons x xs ih =>
    rw [List.flatMap_cons, ih, List.filter_cons]
    cases x.compares <;> rfl

section Alone

variable (name help : String) (bounds : List Binary64) (labels values : List String)

/-- The memory store with one histogram, which has seen some observations. -/
def Memory.alone (seen : List Amount) (sum : Binary64) : Memory :=
  ⟨.ofSeries name help (.histogram bounds) labels values (.histogram (tallied bounds seen) sum)⟩

/-- The exposition store with one histogram, which has seen some observations. -/
def Exposition.alone (seen : List Amount) (sum : Binary64) : Exposition :=
  ⟨[name], .ofSeries name help (.histogram bounds) labels values
    (.histogram sum (tallied bounds seen))⟩

theorem Memory.call_alone (hascending : Ascending bounds) (seen : List Amount)
    (sum x : Binary64) :
    (alone name help bounds labels values seen sum).call ⟨name, values⟩ .observe [.real x]
      = (.ok (), alone name help bounds labels values (seen ++ [.real x]) (sum.add x)) := by
  let f : Family MemoryCell :=
    ⟨help, .histogram bounds, labels, .single values (.histogram (tallied bounds seen) sum)⟩
  have hf : (alone name help bounds labels values seen sum).families.get? name = some f :=
    Table.get?_single _ _
  have hcell : f.cell? values = some (.histogram (tallied bounds seen) sum) :=
    Table.get?_single _ _
  rw [call_observe ⟨name, values⟩ hascending hf rfl hcell x, ← tallied_append]
  simp [setCell, alone, Table.ofSeries, Family.adjust]

theorem Exposition.call_alone (seen : List Amount) (sum x : Binary64) :
    (alone name help bounds labels values seen sum).call ⟨name, values⟩ .observe [.real x]
      = (.ok (), alone name help bounds labels values
          (seen ++ if x.compares then [.real x] else []) (sum.add x)) := by
  let f : Family ExposedCell :=
    ⟨help, .histogram bounds, labels, .single values (.histogram sum (tallied bounds seen))⟩
  have hf : (alone name help bounds labels values seen sum).families.get? name = some f :=
    Table.get?_single _ _
  have hcell : f.cell? values = some (.histogram sum (tallied bounds seen)) :=
    Table.get?_single _ _
  rw [call_observe ⟨name, values⟩ hf rfl hcell x, ← tallied_append]
  cases x.compares <;> simp [setCell, alone, Table.ofSeries, Family.adjust]

variable {bounds labels values}

/-- Bounds in order are not refused. -/
theorem Store.register_histogram (hbounds : Bounds.refusal? bounds = none) (store : Store) :
    store.register name help (.histogram bounds) labels
      = store.enter name help (.histogram bounds) labels := by
  unfold Store.register Bounds.check
  dsimp only
  rw [hbounds]

/-- The memory store after its one histogram was registered and resolved. -/
theorem Session.after_memory_alone (hbounds : Bounds.refusal? bounds = none)
    (hnames : labels.Nodup) (hself : "self" ∉ labels) (hlength : values.length = labels.length) :
    after ⟨.ofMemory, []⟩
        [.register name help (.histogram bounds) labels, .resolve name (.of labels values)]
      = ⟨.memory (.alone name help bounds labels values [] 0), [⟨name, values⟩]⟩ := by
  let f : Family MemoryCell := { help, shape := .histogram bounds, labels }
  have hregister : Store.ofMemory.register name help (.histogram bounds) labels
      = (.ok (), .memory ⟨.single name f⟩) := by
    rw [Store.register_histogram name help hbounds]
    rfl
  have hresolve : (Memory.mk (.single name f)).resolve name (.of labels values)
      = (.ok ⟨name, values⟩, .alone name help bounds labels values [] 0) := by
    have hclash : (Labelling.of labels values).clashes ["self"] = false :=
      Labelling.clashes_of hlength (by simpa using hself)
    have hseries : Memory.seriesOf name f (.of labels values) = .ok ⟨name, values⟩ :=
      Memory.seriesOf_of name hnames hlength
    have hfresh : f.ensure values (.fresh f.shape)
        = ⟨help, .histogram bounds, labels, .single values (.histogram (tallied bounds []) 0)⟩ := by
      rw [tallied_nil]
      rfl
    unfold Memory.resolve
    rw [Table.get?_single, hclash]
    dsimp only
    rw [hseries]
    simp only [Table.adjust_single, hfresh]
    rfl
  simp only [after, List.foldl_cons, List.foldl_nil, step, settle, hregister, Store.resolve,
    hresolve, Store.put]
  rfl

/-- The exposition store after its one histogram was registered and resolved. -/
theorem Session.after_exposition_alone (hbounds : Bounds.refusal? bounds = none)
    (hrefusal : Exposition.empty.refusal? name (.histogram bounds) labels = none)
    (hnames : labels.Nodup) (hself : "self" ∉ labels) (hlength : values.length = labels.length) :
    after ⟨.ofExposition, []⟩
        [.register name help (.histogram bounds) labels, .resolve name (.of labels values)]
      = ⟨.exposition (.alone name help bounds labels values [] 0), [⟨name, values⟩]⟩ := by
  let f : Family ExposedCell := { help, shape := .histogram bounds, labels }
  let g : Family ExposedCell := if labels.isEmpty then f.ensure [] (.fresh f.shape) else f
  have hregister : Store.ofExposition.register name help (.histogram bounds) labels
      = (.ok (), .exposition ⟨[name], .single name g⟩) := by
    have hclaimed : ({ Exposition.empty with claimed := Exposition.empty.claimed ++ [name] }
        : Exposition).refusal? name (.histogram bounds) labels = none := hrefusal
    rw [Store.register_histogram name help hbounds]
    show Store.put .exposition (Exposition.empty.register name help (.histogram bounds) labels) = _
    unfold Exposition.register
    rw [if_neg (by exact Bool.false_ne_true)]
    dsimp only
    rw [hclaimed]
    rfl
  have hresolve : (Exposition.mk [name] (.single name g)).resolve name (.of labels values)
      = (.ok ⟨name, values⟩, .alone name help bounds labels values [] 0) := by
    have hclash : (Labelling.of labels values).clashes ["self"] = false :=
      Labelling.clashes_of hlength (by simpa using hself)
    have hlabels : g.labels = labels := by
      dsimp only [g]
      split
      · exact Family.labels_ensure _ _ _
      · rfl
    have hseries : Exposition.seriesOf name g (.of labels values) = .ok ⟨name, values⟩ := by
      have hgiven : ((Labelling.of labels values).map Prod.fst).Nodup := by
        rw [Labelling.names_of hlength]
        exact hnames
      have h := Agreeing.seriesOf_exposed name (hlabels.symm ▸ hnames : g.labels.Nodup) hgiven
      rw [hlabels, Labelling.names_of hlength, Labelling.values_of hnames hlength,
        if_pos ((sameNames_iff _ _).mpr fun _ => .rfl)] at h
      exact h
    have hfresh : g.ensure values (.fresh g.shape)
        = ⟨help, .histogram bounds, labels, .single values (.histogram 0 (tallied bounds []))⟩ := by
      rw [tallied_nil]
      cases labels with
      | nil =>
        obtain rfl := List.eq_nil_of_length_eq_zero hlength
        rfl
      | cons label labels => rfl
    unfold Exposition.resolve
    rw [Table.get?_single, hclash]
    dsimp only
    rw [hseries]
    simp only [Table.adjust_single, hfresh]
    rfl
  simp only [after, List.foldl_cons, List.foldl_nil, step, settle, hregister, Store.resolve,
    hresolve, Store.put]
  rfl

/-- **The memory store after a session that observes.** -/
theorem Session.after_memory_observing (hbounds : Bounds.refusal? bounds = none)
    (hnames : labels.Nodup) (hself : "self" ∉ labels) (hlength : values.length = labels.length)
    (xs : List Binary64) :
    after ⟨.ofMemory, []⟩
        ([.register name help (.histogram bounds) labels, .resolve name (.of labels values)]
          ++ observing xs)
      = ⟨.memory (.alone name help bounds labels values (xs.map .real)
          (xs.foldl Binary64.add 0)), [⟨name, values⟩]⟩ := by
  rw [after_append, after_memory_alone name help hbounds hnames hself hlength]
  have hrun := after_observing
    (fun seen sum => .memory (.alone name help bounds labels values seen sum))
    (fun x => [.real x])
    (fun seen sum x => congrArg (Store.put .memory)
      (Memory.call_alone name help bounds labels values (Bounds.ascending_of_refusal? hbounds) seen
        sum x)) [] 0 xs
  rw [← List.map_eq_flatMap] at hrun
  exact hrun

/-- **The exposition store after a session that observes**: it has seen what
compares. -/
theorem Session.after_exposition_observing (hbounds : Bounds.refusal? bounds = none)
    (hrefusal : Exposition.empty.refusal? name (.histogram bounds) labels = none)
    (hnames : labels.Nodup) (hself : "self" ∉ labels) (hlength : values.length = labels.length)
    (xs : List Binary64) :
    after ⟨.ofExposition, []⟩
        ([.register name help (.histogram bounds) labels, .resolve name (.of labels values)]
          ++ observing xs)
      = ⟨.exposition (.alone name help bounds labels values
          ((xs.filter Binary64.compares).map .real) (xs.foldl Binary64.add 0)),
        [⟨name, values⟩]⟩ := by
  rw [after_append, after_exposition_alone name help hbounds hrefusal hnames hself hlength]
  have hrun := after_observing
    (fun seen sum => .exposition (.alone name help bounds labels values seen sum))
    (fun x => if x.compares then [.real x] else [])
    (fun seen sum x => congrArg (Store.put .exposition)
      (Exposition.call_alone name help bounds labels values seen sum x)) [] 0 xs
  rw [flatMap_compares] at hrun
  exact hrun

end Alone

/-! ## Readings -/

theorem Memory.histogram_alone (name help : String) (bounds : List Binary64)
    {labels values : List String} (hnames : labels.Nodup)
    (hfree : ∀ label ∈ ["self", "name"], label ∉ labels) (hlength : values.length = labels.length)
    (seen : List Amount) (sum : Binary64) :
    (alone name help bounds labels values seen sum).histogram name (.of labels values)
      = .ok (some (.of bounds (tallied bounds seen) sum)) := by
  let f : Family MemoryCell :=
    ⟨help, .histogram bounds, labels, .single values (.histogram (tallied bounds seen) sum)⟩
  have hf : (alone name help bounds labels values seen sum).families.get? name = some f :=
    Table.get?_single _ _
  have hcell : f.cell? values = some (.histogram (tallied bounds seen) sum) :=
    Table.get?_single _ _
  rw [histogram_of hf rfl hnames hfree hlength, hcell]
  rfl

theorem Exposition.samples_alone (name help : String) (bounds : List Binary64)
    (labels values : List String) (seen : List Amount) (sum : Binary64) :
    (alone name help bounds labels values seen sum).samples
      = (Snapshot.of bounds (tallied bounds seen) sum).samples name (labels.zip values) := by
  rw [← histogramSamples_of_length name (labels.zip values) (length_tallied bounds seen) sum]
  simp [samples, familySamples, alone, Table.ofSeries, Table.single, stem, Family.labelling]

/-- What does not compare raises every count of a snapshot. -/
theorem Snapshot.of_tallied_eq_raise {bounds : List Binary64} (hbounds : Ascending bounds)
    (xs : List Binary64) (sum : Binary64) :
    Snapshot.of bounds (tallied bounds (xs.map .real)) sum
      = (Snapshot.of bounds (tallied bounds ((xs.filter Binary64.compares).map .real)) sum).raise
          (xs.countP (!·.compares)) := by
  have hlength : xs.length = (xs.filter Binary64.compares).length + xs.countP (!·.compares) := by
    rw [← List.countP_eq_length_filter, Nat.add_comm]
    have h := List.length_eq_countP_add_countP (l := xs) Binary64.compares
    simpa [Nat.add_comm] using h
  rw [snapshot_tallied hbounds, snapshot_tallied hbounds]
  have hbuckets : bounds.map (fun bound => (bound, (xs.map Amount.real).countP (!isAbove bound ·)))
      = bounds.map fun bound =>
          (bound, ((xs.filter Binary64.compares).map Amount.real).countP (!isAbove bound ·)
            + xs.countP (!·.compares)) :=
    List.map_congr_left fun bound _ => congrArg (Prod.mk bound) (countP_not_isAbove bound xs)
  unfold raise
  rw [hbuckets, List.map_append, List.map_map, List.map_singleton, List.length_map,
    List.length_map, ← hlength]
  rfl

/-- The number of a whole amount is the one nearest to it. -/
theorem Amount.ofInt?_of_toReal {i : Int} {x : Binary64} (h : (whole i).toReal = .ok x) :
    Binary64.ofInt? i = some x := by
  unfold toReal at h
  dsimp only at h
  generalize Binary64.ofInt? i = y at h ⊢
  cases y with
  | some y => exact congrArg some (Except.ok.inj h)
  | none => cases h

/-- A count below 2⁵³ is not rounded in a sample. -/
theorem Binary64.units?_ofCount {n : Nat} (h : n < 2 ^ 53) :
    (ofCount n).units? = some ((n : Int) * unitsPerOne) := by
  have hrepresentable : Representable ((n : Int) * unitsPerOne).natAbs :=
    representable_whole (i := n) (by rw [Int.natAbs_natCast]; exact h)
  obtain ⟨x, hx, hunits⟩ : ∃ x, (Amount.whole n).toReal = .ok x
      ∧ x.units? = some ((n : Int) * unitsPerOne) := Amount.toReal_of_units? rfl hrepresentable
  unfold ofCount
  rw [Amount.ofInt?_of_toReal hx, Option.getD_some]
  exact hunits

theorem Binary64.ofCount_inj {n k : Nat} (hn : n < 2 ^ 53) (hk : k < 2 ^ 53)
    (h : ofCount n = ofCount k) : n = k := by
  have hunits := congrArg units? h
  rw [units?_ofCount hn, units?_ofCount hk, Option.some.injEq] at hunits
  have hpos : (unitsPerOne : Int) ≠ 0 := Int.natCast_ne_zero.mpr (Nat.ne_of_gt unitsPerOne_pos)
  exact Int.natCast_inj.mp (Int.eq_of_mul_eq_mul_right hpos hunits)

/-- Snapshots with as many bounds and the same samples have the same number of
observations in them. -/
theorem Snapshot.ofCount_eq_of_samples_eq {a b : Snapshot} {name : String}
    {labels : List (String × String)} (h : a.samples name labels = b.samples name labels)
    (hlength : a.buckets.length = b.buckets.length) :
    Binary64.ofCount a.count = Binary64.ofCount b.count := by
  have hcount (shot : Snapshot) : (shot.samples name labels)[shot.buckets.length]?
      = some ⟨name ++ "_count", labels, .ofCount shot.count⟩ := by
    unfold samples
    rw [List.append_assoc, List.getElem?_append_right (by simp), List.length_map, Nat.sub_self]
    rfl
  have ha := hcount a
  rw [h, hlength, hcount b] at ha
  exact (Sample.mk.inj (Option.some.inj ha)).2.2.symm

namespace Session

/-- **Every count of the memory store is that of the exposition store and the
number of observations that do not compare.** Whatever is observed in a histogram
that both stores have, the memory store has a snapshot of it, and the samples of
the exposition store are those of a snapshot with lower counts. They are those of
the snapshot itself if everything compares, and (unless a sample cannot hold the
counts) only then. -/
theorem histogram_shows_exposed (name help : String) {bounds : List Binary64}
    {labels values : List String} (xs : List Binary64) (hbounds : Bounds.refusal? bounds = none)
    (hrefusal : Exposition.empty.refusal? name (.histogram bounds) labels = none)
    (hnames : labels.Nodup) (hfree : ∀ label ∈ ["self", "name"], label ∉ labels)
    (hlength : values.length = labels.length) :
    let actions := [.register name help (.histogram bounds) labels,
      .resolve name (.of labels values)]
      ++ observing xs
    ∃ (m : Memory) (e : Exposition) (shot shown : Snapshot),
      (after ⟨.ofMemory, []⟩ actions).store = .memory m
      ∧ (after ⟨.ofExposition, []⟩ actions).store = .exposition e
      ∧ m.histogram name (.of labels values) = .ok (some shot) ∧ shot.count = xs.length
      ∧ e.samples = shown.samples name (labels.zip values)
      ∧ shot = shown.raise (xs.countP (!·.compares))
      ∧ ((∀ x ∈ xs, x.compares = true) → e.samples = shot.samples name (labels.zip values))
      ∧ (xs.length < 2 ^ 53 → e.samples = shot.samples name (labels.zip values) →
        ∀ x ∈ xs, x.compares = true) := by
  intro actions
  let sum := xs.foldl Binary64.add 0
  let seen := (xs.filter Binary64.compares).map Amount.real
  let m : Memory := .alone name help bounds labels values (xs.map .real) sum
  let e : Exposition := .alone name help bounds labels values seen sum
  have hself : "self" ∉ labels := hfree "self" List.mem_cons_self
  have hm := after_memory_observing name help hbounds hnames hself hlength xs
  have he := after_exposition_observing name help hbounds hrefusal hnames hself hlength xs
  let shot : Snapshot := .of bounds (tallied bounds (xs.map .real)) sum
  let shown : Snapshot := .of bounds (tallied bounds seen) sum
  have hraise : shot = shown.raise (xs.countP (!·.compares)) :=
    Snapshot.of_tallied_eq_raise (Bounds.ascending_of_refusal? hbounds) xs sum
  have hcount : shot.count = xs.length := by
    show total _ = _
    rw [total_tallied, List.length_map]
  have hsamples := Exposition.samples_alone name help bounds labels values seen sum
  refine ⟨m, e, shot, shown, by rw [hm], by rw [he],
    Memory.histogram_alone name help bounds hnames hfree hlength _ _, hcount, hsamples, hraise,
    fun hall => ?_, fun hfew hsame => ?_⟩
  · have hfilter : xs.filter Binary64.compares = xs := List.filter_eq_self.mpr hall
    have hseen : seen = xs.map Amount.real := congrArg _ hfilter
    show e.samples = (Snapshot.of bounds (tallied bounds (xs.map .real)) sum).samples _ _
    rw [← hseen]
    exact hsamples
  · have hcounts : Binary64.ofCount shown.count = Binary64.ofCount shot.count := by
      refine Snapshot.ofCount_eq_of_samples_eq (hsamples.symm.trans hsame) ?_
      rw [hraise]
      exact (List.length_map _).symm
    have hle : shot.count = shown.count + xs.countP (!·.compares) := congrArg Snapshot.count hraise
    have heq : shown.count = shot.count := Binary64.ofCount_inj (by omega) (by omega) hcounts
    have hzero : xs.countP (!·.compares) = 0 := by omega
    intro x hx
    have hnot := List.countP_eq_zero.mp hzero x hx
    simpa using hnot

/-- Observations below a bound, at a bound and above all bounds. -/
theorem histogram_shows_exposed_at_bounds :
    let actions := [.register "latency" "Seconds." (.histogram [1, 2]) ["path"],
      .resolve "latency" (.of ["path"] ["/"])] ++ observing [0.5, 1, 2, .infinite false]
    ∃ (m : Memory) (e : Exposition) (shot : Snapshot),
      (after ⟨.ofMemory, []⟩ actions).store = .memory m
      ∧ (after ⟨.ofExposition, []⟩ actions).store = .exposition e
      ∧ m.histogram "latency" (.of ["path"] ["/"]) = .ok (some shot) ∧ shot.count = 4
      ∧ e.samples = shot.samples "latency" [("path", "/")] := by
  intro actions
  let bounds : List Binary64 := [1, 2]
  let xs : List Binary64 := [0.5, 1, 2, .infinite false]
  have hbounds : Bounds.refusal? bounds = none := by decide +kernel
  have hrefusal : Exposition.empty.refusal? "latency" (.histogram bounds) ["path"] = none := by
    decide +kernel
  have hcompares : ∀ x ∈ xs, x.compares = true := by decide +kernel
  obtain ⟨m, e, shot, shown, hm, he, hshot, hcount, -, -, hsame, -⟩ :=
    histogram_shows_exposed "latency" "Seconds." xs hbounds hrefusal (List.nodup_singleton "path")
      (by decide) (List.length_singleton (a := "/"))
  exact ⟨m, e, shot, hm, he, hshot, hcount, hsame hcompares⟩

/-- **An observation that does not compare is counted in memory alone**: there it
is in the first bucket, and no sample shows it. -/
theorem histogram_counts_nan :
    let actions := [.register "latency" "Seconds." (.histogram [1]) [],
      .resolve "latency" (.of [] [])]
      ++ observing [.nan]
    ∃ (m : Memory) (e : Exposition) (shot : Snapshot),
      (after ⟨.ofMemory, []⟩ actions).store = .memory m
      ∧ (after ⟨.ofExposition, []⟩ actions).store = .exposition e
      ∧ m.histogram "latency" (.of [] []) = .ok (some shot)
      ∧ shot.buckets = [(1, 1), (.infinite false, 1)] ∧ shot.count = 1
      ∧ e.sample? "latency_count" [] = some 0
      ∧ e.samples ≠ shot.samples "latency" [] := by
  intro actions
  let bounds : List Binary64 := [1]
  let sum := [Binary64.nan].foldl Binary64.add 0
  have hbounds : Bounds.refusal? bounds = none := by decide +kernel
  have hrefusal : Exposition.empty.refusal? "latency" (.histogram bounds) [] = none := by
    decide +kernel
  have hm := after_memory_observing "latency" "Seconds." hbounds List.nodup_nil List.not_mem_nil rfl
    [.nan]
  have he := after_exposition_observing "latency" "Seconds." hbounds hrefusal List.nodup_nil
    List.not_mem_nil rfl [.nan]
  have hshot := Memory.histogram_alone "latency" "Seconds." bounds List.nodup_nil
    (fun _ _ => List.not_mem_nil) rfl [.real .nan] sum
  have hsamples := Exposition.samples_alone "latency" "Seconds." bounds [] [] [] sum
  refine ⟨_, _, _, congrArg store hm, congrArg store he, hshot, by decide +kernel,
    by decide +kernel, by decide +kernel, fun hsame => ?_⟩
  have hvalues := congrArg (List.map Sample.value) (hsamples.symm.trans hsame)
  exact absurd hvalues (by decide +kernel)

end Session

end QuicTelemetry
