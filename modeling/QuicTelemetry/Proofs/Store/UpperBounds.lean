import QuicTelemetry.Proofs.Lists
import QuicTelemetry.Proofs.Store.Cumulative
import QuicTelemetry.Proofs.Store.Histograms
import QuicTelemetry.Proofs.Store.Requests

/-!
# The upper bounds of a histogram

Bounds are looked at twice. They are checked before a name is taken: there must be
some, all finite, each above the one in front of it. As the comparison of finite
numbers is transitive, each is then above all in front of it
(`Bounds.refusal?_eq_none_iff`). A registry looks at them once more: it refuses bounds
that fall somewhere, puts infinity at their end unless it is there, and asks for two
buckets at least (`Bounds.Prepares`). **It refuses nothing that was checked**, not
even a single bound (`Bounds.Prepares.accepts`).

So whether a store makes a histogram is a matter of its name and its labels
(`Store.objection?`), and a histogram that was made shows the bounds it was
registered over, and infinity, for as long as there is the store
(`Bounds.accepted_everywhere`).
-/

namespace QuicTelemetry

/-! ## A second look -/

namespace Bounds

/-- **The upper bounds with infinity at their end**, where it may be already. -/
def completed (bounds : List Binary64) : List Binary64 :=
  match bounds.getLast? with
  | some last => if last.eq (.infinite false) then bounds else bounds ++ [.infinite false]
  | none => []

/-- **How a registry prepares bounds**: it refuses none but bounds that fall
somewhere and those of fewer than two buckets, and those that it does not refuse it
completes. -/
structure Prepares (prepare : List Binary64 → Except String (List Binary64)) : Prop where
  refuses : ∀ bounds reason, prepare bounds = .error reason →
    ¬(bounds.Pairwise fun before bound => before.le bound = true) ∨ (completed bounds).length < 2
  completes : ∀ bounds upper, prepare bounds = .ok upper → upper = completed bounds

/-- Bounds that are looked at once more, by sorting them. -/
def prepare (bounds : List Binary64) : Except String (List Binary64) :=
  if bounds.mergeSort (fun before bound => !bound.lt before) ≠ bounds then
    .error "Buckets not in sorted order"
  else if (completed bounds).length < 2 then .error "Must have at least two buckets"
  else .ok (completed bounds)

/-- What is at most another number is not above it. -/
theorem lt_eq_false_of_le {x y : Binary64} (h : x.le y = true) : y.lt x = false := by
  cases x <;> cases y <;> simp_all [Binary64.le, Binary64.lt, Binary64.eq]
  case finite.finite => omega
  case infinite.infinite s t => cases s <;> cases t <;> simp_all

theorem prepares_prepare : Prepares prepare := by
  refine ⟨fun bounds reason h => ?_, fun bounds upper h => ?_⟩
  · unfold prepare at h
    split at h
    · next hsort =>
      refine .inl fun hordered => hsort (List.mergeSort_of_pairwise ?_)
      exact hordered.imp fun hle => by rw [lt_eq_false_of_le hle]; rfl
    · split at h
      · next hshort => exact .inr hshort
      · cases h
  · unfold prepare at h
    split at h
    · cases h
    · split at h
      · cases h
      · cases h
        rfl

/-- Bounds that are all finite lack infinity. -/
theorem completed_of_ascending {bounds : List Binary64} (hne : bounds ≠ [])
    (h : Ascending bounds) : completed bounds = bounds ++ [.infinite false] := by
  have hfinite := h.1 _ (List.getLast_mem hne)
  unfold completed
  rw [List.getLast?_eq_some_getLast hne]
  dsimp only
  cases hlast : bounds.getLast hne with
  | finite s m hm => rfl
  | infinite s =>
    rw [hlast] at hfinite
    cases hfinite
  | nan => rfl

/-- **The second look refuses nothing that the first one accepts**, a single bound
included. -/
theorem Prepares.accepts {prepare : List Binary64 → Except String (List Binary64)}
    (hprepare : Prepares prepare) {bounds : List Binary64} (hne : bounds ≠ [])
    (h : Ascending bounds) : prepare bounds = .ok (bounds ++ [.infinite false]) := by
  have hcompleted := completed_of_ascending hne h
  cases hresult : prepare bounds with
  | ok upper => rw [hprepare.completes bounds upper hresult, hcompleted]
  | error reason =>
    rcases hprepare.refuses bounds reason hresult with hfalls | hshort
    · refine absurd (h.2.imp fun hlt => ?_) hfalls
      unfold Binary64.le
      rw [hlt]
      rfl
    · rw [hcompleted, List.length_append, List.length_singleton] at hshort
      have hsome := List.length_pos_of_ne_nil hne
      omega

end Bounds

/-! ## A histogram that is made -/

/-- **What a store has against a histogram**: its name is taken, or a registry refuses
its name or its labels. -/
def Store.objection? (s : Store) (name : String) (labels : List String) : Option Refusal :=
  if s.names.contains name then some .taken
  else
    match s with
    | .exposition e => e.refusal? name (.histogram []) labels
    | _ => none

/-- **What comes of registering a histogram**: the answer is what the store has against
it, and without that the store has the histogram. -/
structure Store.Makes (s : Store) (name : String) (bounds : List Binary64) (labels : List String)
    (result : Except Fault Unit × Store) : Prop where
  answer : result.1
    = (s.objection? name labels).elim (.ok ()) (fun refusal => .error (.schema name refusal))
  made : s.objection? name labels = none → result.2.HasHistogram name bounds labels

theorem Store.Makes.refused {s s' : Store} {name : String} {bounds : List Binary64}
    {labels : List String} {refusal : Refusal} (h : s.objection? name labels = some refusal) :
    s.Makes name bounds labels (.error (.schema name refusal), s') :=
  ⟨by rw [h]; rfl, fun hnone => absurd (h.symm.trans hnone) (Option.some_ne_none _)⟩

theorem Store.Makes.accepted {s s' : Store} {name : String} {bounds : List Binary64}
    {labels : List String} (h : s.objection? name labels = none)
    (hmade : s'.HasHistogram name bounds labels) : s.Makes name bounds labels (.ok (), s') :=
  ⟨by rw [h]; rfl, fun _ => hmade⟩

theorem Memory.makes_register (m : Memory) (name help : String) (bounds : List Binary64)
    (labels : List String) : (Store.memory m).Makes name bounds labels
      (Store.put .memory (m.register name help (.histogram bounds) labels)) := by
  have htaken : (Store.memory m).names.contains name = m.families.has name := by
    rw [Bool.eq_iff_iff, List.contains_iff_mem, Table.has_iff_mem_keys]
    rfl
  unfold register
  split
  · next hhas => exact .refused (if_pos (htaken.trans hhas))
  · next hhas =>
    exact .accepted (if_neg (htaken ▸ hhas))
      (Table.only_push (Option.not_isSome_iff_eq_none.mp hhas) (.new help))

theorem Exposition.makes_register (e : Exposition) (name help : String) (bounds : List Binary64)
    (labels : List String) : (Store.exposition e).Makes name bounds labels
      (Store.put .exposition (e.register name help (.histogram bounds) labels)) := by
  -- neither the bounds nor the names that are claimed matter to the registry
  have hrefusal : { e with claimed := e.claimed ++ [name] }.refusal? name (.histogram bounds) labels
    = e.refusal? name (.histogram []) labels := rfl
  unfold register
  split
  · next hclaimed => exact .refused (if_pos hclaimed)
  · next hclaimed =>
    have hobjection : (Store.exposition e).objection? name labels
      = e.refusal? name (.histogram []) labels := if_neg hclaimed
    dsimp only
    cases hresult : e.refusal? name (.histogram []) labels with
    | some refusal =>
      rw [hrefusal.trans hresult]
      exact .refused (hobjection.trans hresult)
    | none =>
      rw [hrefusal.trans hresult]
      have hfilter := Agreeing.filter_of_refusal? (hrefusal.trans hresult)
      have hnew : Family.IsOver ExposedCell.size? bounds labels
        { help, shape := .histogram bounds, labels } := .new help
      refine .accepted (hobjection.trans hresult) ⟨Table.only_push (get?_of_filter hfilter) ?_, ?_⟩
      · split
        · exact hnew.ensure _ (ExposedCell.size?_fresh bounds)
        · exact hnew
      · intro entry hentry hne hbucket
        rw [signature_enter] at hentry
        rcases List.mem_append.mp hentry with hold | hlast
        · exact Agreeing.apart_of_filter e hfilter entry hold _ hbucket
            (bucket_mem_reserved bounds name)
        · exact hne (congrArg Prod.fst (List.mem_singleton.mp hlast))

/-- **What a store answers** a histogram does not depend on its bounds. -/
theorem Store.makes_enter {s : Store} (hs : s.IsReadable) (name help : String)
    (bounds : List Binary64) (labels : List String) :
    s.Makes name bounds labels (s.enter name help (.histogram bounds) labels) := by
  cases s with
  | memory m => exact m.makes_register name help bounds labels
  | exposition e => exact e.makes_register name help bounds labels
  | recorder m => exact hs.elim
  | pipeline m => exact hs.elim

/-! ## What is read of a histogram -/

/-- **What a scraper reads of the buckets** of a name: the labels of all samples that
have the name with its ending. -/
def Exposition.bucketLabels (name : String) (samples : List Sample) :
    List (List (String × String)) :=
  (samples.filter (·.name == name ++ "_bucket")).map Sample.labels

/-- The label values of the series of a family, oldest first. -/
def Exposition.rows (e : Exposition) (name : String) : List (List String) :=
  ((e.families.get? name).map fun f => f.series.keys).getD []

/-- **The upper bounds that a store shows** of a histogram. -/
inductive Store.ShowsBounds (name : String) (labels : List String) (upper : List Binary64) :
    Store → Prop
  /-- In memory every snapshot has them, and there is one of every series that was
  resolved. -/
  | memory {m : Memory} :
    (∀ given shot, m.histogram name given = .ok (some shot) → shot.buckets.map Prod.fst = upper) →
      (∀ given id, (m.resolve name given).1 = .ok id → given.clashes ["self", "name"] = false →
        ∃ shot, (m.resolve name given).2.histogram name given = .ok (some shot)) →
      ShowsBounds name labels upper (.memory m)
  /-- A scraper reads a sample of each of them for every series, and finds every series
  that was resolved. -/
  | exposition {e : Exposition} :
    Exposition.bucketLabels name e.samples
        = (e.rows name).flatMap (fun values => upper.map fun bound =>
            labels.zip values ++ [("le", bound.render .exposition)]) →
      (∀ given id, (e.resolve name given).1 = .ok id →
        id.values ∈ (e.resolve name given).2.rows name) →
      ShowsBounds name labels upper (.exposition e)

theorem length_runningSums (start : Nat) (counts : List Nat) :
    (runningSums start counts).length = counts.length := by
  induction counts generalizing start with
  | nil => rfl
  | cons n counts ih => rw [runningSums, List.length_cons, ih, List.length_cons]

/-- The buckets of a snapshot are the bounds and infinity. -/
theorem Snapshot.bounds_of {bounds : List Binary64} {counts : List Nat}
    (hcounts : counts.length = bounds.length + 1) (sum : Binary64) :
    (Snapshot.of bounds counts sum).buckets.map Prod.fst = bounds ++ [.infinite false] := by
  refine List.map_fst_zip (Nat.le_of_eq ?_)
  rw [length_runningSums, hcounts, List.length_append, List.length_singleton]

/-- A cell with a count for each bound and one more has a snapshot over the bounds. -/
theorem MemoryCell.exists_snapshot? {cell : MemoryCell} {bounds : List Binary64}
    (h : cell.size? = some (bounds.length + 1)) :
    ∃ shot, cell.snapshot? bounds = some shot
      ∧ shot.buckets.map Prod.fst = bounds ++ [.infinite false] := by
  cases cell with
  | value x => cases h
  | histogram counts sum => exact ⟨_, rfl, Snapshot.bounds_of (Option.some.inj h) sum⟩

namespace Memory

variable {m : Memory} {name : String} {bounds : List Binary64} {labels : List String}

/-- A histogram is read as the snapshot of the cell that its labels belong to. -/
theorem histogram_of_isOver {f : Family MemoryCell} (hf : m.families.get? name = some f)
    (hover : f.IsOver MemoryCell.size? bounds labels) {given : Labelling}
    (hclash : given.clashes ["self", "name"] = false) :
    m.histogram name given
      = (seriesOf name f given).map fun id => (f.cell? id.values).bind (·.snapshot? bounds) := by
  rw [histogram_eq, hclash, hf]
  dsimp only
  rw [if_neg Bool.false_ne_true, hover.shape]

theorem showsBounds (h : (Store.memory m).HasHistogram name bounds labels) :
    (Store.memory m).ShowsBounds name labels (bounds ++ [.infinite false]) := by
  refine .memory (fun given shot hshot => ?_) fun given id hid hclash => ?_
  · obtain ⟨f, hf, hover⟩ := h.get?
    cases hclash : given.clashes ["self", "name"] with
    | true =>
      rw [histogram_eq, hclash] at hshot
      cases hshot
    | false =>
      rw [histogram_of_isOver hf hover hclash] at hshot
      cases hseries : seriesOf name f given with
      | error fault =>
        rw [hseries] at hshot
        cases hshot
      | ok id =>
        rw [hseries] at hshot
        obtain ⟨cell, hcell, hsnapshot⟩ := Option.bind_eq_some_iff.mp (Except.ok.inj hshot)
        obtain ⟨shot', hshot', hbounds⟩ := MemoryCell.exists_snapshot? (hover.size?_cell hcell)
        obtain rfl : shot' = shot := Option.some.inj (hshot'.symm.trans hsnapshot)
        exact hbounds
  · obtain ⟨f', hf', hover'⟩ := (hasHistogram_resolve h name given).get?
    rcases m.resolve_cases name given with ⟨fault, heq⟩ | ⟨f, hf, hsame, heq⟩
    · rw [heq] at hid
      cases hid
    · rw [heq] at hf' hid ⊢
      obtain rfl : f.ensure (given.values f.labels) (.fresh f.shape) = f' := by
        rw [Table.get?_adjust, if_pos rfl, hf] at hf'
        exact Option.some.inj hf'
      have hseries : seriesOf name (f.ensure (given.values f.labels) (.fresh f.shape)) given
          = .ok ⟨name, given.values f.labels⟩ := by
        unfold seriesOf checkLabels
        rw [Family.labels_ensure, if_pos ((sameNames_iff _ _).mpr hsame)]
        rfl
      have hcell := f.cell?_ensure (given.values f.labels) (given.values f.labels) (.fresh f.shape)
      rw [if_pos rfl] at hcell
      obtain ⟨shot, hshot, -⟩ := MemoryCell.exists_snapshot? (hover'.size?_cell hcell)
      refine ⟨shot, ?_⟩
      rw [histogram_of_isOver hf' hover' hclash, hseries]
      show Except.ok ((Family.cell? _ _).bind _) = _
      rw [hcell]
      exact congrArg Except.ok hshot

end Memory

namespace Exposition

theorem bucketLabels_append (name : String) (samples samples' : List Sample) :
    bucketLabels name (samples ++ samples')
      = bucketLabels name samples ++ bucketLabels name samples' := by
  unfold bucketLabels
  rw [List.filter_append, List.map_append]

theorem bucketLabels_flatMap {α : Type} (name : String) (l : List α) (f : α → List Sample) :
    bucketLabels name (l.flatMap f) = l.flatMap fun a => bucketLabels name (f a) := by
  unfold bucketLabels
  rw [List.filter_flatMap, List.map_flatMap]

/-- Samples of other names are none of buckets. -/
theorem bucketLabels_eq_nil {name : String} {samples : List Sample}
    (h : ∀ sample ∈ samples, sample.name ≠ name ++ "_bucket") : bucketLabels name samples = [] := by
  unfold bucketLabels
  rw [List.filter_eq_nil_iff.mpr fun sample hsample hname => h sample hsample (beq_iff_eq.mp hname)]
  rfl

theorem bucketLabels_eq_map {name : String} {samples : List Sample}
    (h : ∀ sample ∈ samples, sample.name = name ++ "_bucket") :
    bucketLabels name samples = samples.map Sample.labels := by
  unfold bucketLabels
  rw [List.filter_eq_self.mpr fun sample hsample => beq_iff_eq.mpr (h sample hsample)]

/-- **The samples of a snapshot** have one of buckets for each of its bounds. -/
theorem bucketLabels_samples (shot : Snapshot) (name : String) (labels : List (String × String)) :
    bucketLabels name (shot.samples name labels)
      = (shot.buckets.map Prod.fst).map fun bound =>
          labels ++ [("le", bound.render .exposition)] := by
  have hending {ending : String} (h : ending ≠ "_bucket") : name ++ ending ≠ name ++ "_bucket" :=
    fun heq => h ((String.append_right_inj name).mp heq)
  have hcount : bucketLabels name [⟨name ++ "_count", labels, .ofCount shot.count⟩] = [] := by
    refine bucketLabels_eq_nil fun sample hsample => ?_
    rw [List.mem_singleton.mp hsample]
    exact hending (by decide)
  have hsum : bucketLabels name (if shot.buckets.head?.any (·.1.lt 0) then []
      else [⟨name ++ "_sum", labels, shot.sum⟩]) = [] := by
    refine bucketLabels_eq_nil fun sample hsample => ?_
    split at hsample
    · exact absurd hsample List.not_mem_nil
    · rw [List.mem_singleton.mp hsample]
      exact hending (by decide)
  unfold Snapshot.samples
  rw [bucketLabels_append, bucketLabels_append, hcount, hsum, List.append_nil, List.append_nil,
    bucketLabels_eq_map, List.map_map, List.map_map]
  · rfl
  · intro sample hsample
    obtain ⟨bucket, -, rfl⟩ := List.mem_map.mp hsample
    rfl

variable {e : Exposition} {name : String} {bounds : List Binary64} {labels : List String}

/-- The samples of a histogram, series by series. -/
theorem bucketLabels_familySamples {f : Family ExposedCell}
    (hover : f.IsOver ExposedCell.size? bounds labels) (name : String) :
    bucketLabels name (familySamples name f)
      = f.series.keys.flatMap fun values => (bounds ++ [Binary64.infinite false]).map fun bound =>
          labels.zip values ++ [("le", bound.render .exposition)] := by
  unfold familySamples
  rw [hover.shape, bucketLabels_flatMap, Table.keys, List.flatMap_map]
  refine List.flatMap_congr fun entry hentry => ?_
  obtain ⟨values, cell⟩ := entry
  have hsize := hover.cells _ hentry
  cases cell with
  | value x => cases hsize
  | histogram sum counts =>
    have hcounts : counts.length = bounds.length + 1 := Option.some.inj hsize
    have hlabels : f.labelling values = labels.zip values := by rw [← hover.labels]; rfl
    rw [← hlabels, ← Snapshot.bounds_of hcounts sum, ← bucketLabels_samples]
    exact congrArg (bucketLabels name) (histogramSamples_of_length name _ hcounts sum)

theorem showsBounds (h : (Store.exposition e).HasHistogram name bounds labels) :
    (Store.exposition e).ShowsBounds name labels (bounds ++ [.infinite false]) := by
  refine .exposition ?_ fun given id hid => ?_
  · obtain ⟨f, hentries, hover⟩ := h.1
    have hrows : e.rows name = f.series.keys := by
      unfold rows
      rw [Table.get?_of_entries hentries]
      rfl
    have hother : ∀ entry ∈ e.families.entries, decide (entry.1 = name) = false →
        bucketLabels name (familySamples entry.1 entry.2) = [] := by
      intro entry hentry hne
      refine bucketLabels_eq_nil fun sample hsample hname => ?_
      have hreserved := name_mem_reserved hsample
      rw [hname] at hreserved
      exact h.2 (entry.1, entry.2.shape) (List.mem_map_of_mem hentry) (of_decide_eq_false hne)
        hreserved
    unfold samples
    rw [bucketLabels_flatMap, flatMap_filter_of hother, hentries, hrows, List.flatMap_singleton]
    exact bucketLabels_familySamples hover name
  · rcases e.resolve_cases name given with ⟨fault, heq⟩ | ⟨f, id', hf, heq⟩
    · rw [heq] at hid
      cases hid
    · rw [heq] at hid ⊢
      obtain rfl := Except.ok.inj hid
      have hcell := f.cell?_ensure id'.values id'.values (.fresh f.shape)
      rw [if_pos rfl] at hcell
      unfold rows
      dsimp only
      rw [Table.get?_adjust, if_pos rfl, hf]
      exact (Table.has_iff_mem_keys _ _).mp (Option.isSome_of_eq_some hcell)

end Exposition

theorem Store.HasHistogram.showsBounds {s : Store} {name : String} {bounds : List Binary64}
    {labels : List String} (h : s.HasHistogram name bounds labels) :
    s.ShowsBounds name labels (bounds ++ [.infinite false]) := by
  cases s with
  | memory m => exact Memory.showsBounds h
  | exposition e => exact Exposition.showsBounds h
  | recorder m => exact h.elim
  | pipeline m => exact h.elim

/-! ## The same bounds everywhere -/

/-- A new memory store has nothing against any histogram, a new registry only what it
has against an empty name and against labels it reserves. -/
theorem Store.objection?_new (name : String) (labels : List String) :
    ofMemory.objection? name labels = none
      ∧ ofExposition.objection? name labels
        = if name = "" then some .emptyName else Exposition.labelRefusal? (.histogram []) labels := by
  refine ⟨rfl, ?_⟩
  show Exposition.empty.refusal? name (.histogram []) labels = _
  unfold Exposition.refusal?
  split
  · rfl
  · next hname =>
    have hfilter : (Exposition.reserved (.histogram []) name).filter
        Exposition.empty.allReserved.contains = [] :=
      List.filter_eq_nil_iff.mpr fun _ _ h => absurd h Bool.false_ne_true
    cases Exposition.labelRefusal? (.histogram []) labels with
    | some refusal => rfl
    | none =>
      dsimp only
      rw [hfilter, show Exposition.stem (.histogram []) name = name from rfl, if_neg hname]

namespace Bounds

/-- **Bounds in order are accepted by all who look at them**, and no others by the
first who does:

* a check answers with the numbers it is given if there are some, all of them are
  finite and each is below all that come later, and with a fault of the metric
  otherwise;
* what a check answered with is accepted by a further check as it is;
* the registry then does not refuse them either, and completes them with infinity;
* a store in memory and one on a registry have something against the name or the labels
  of a histogram, or they make it; the bounds do not matter to that. What they made
  stays over these bounds and shows them and infinity, whatever is done with the
  store. -/
theorem accepted_everywhere {prepare : List Binary64 → Except String (List Binary64)}
    (hprepare : Prepares prepare) (metric : String) (bounds : List Binary64) :
    let buckets := Value.list (bounds.map .real)
    (ofValue metric buckets = .ok bounds ↔ bounds ≠ [] ∧ Ascending bounds)
      ∧ (¬(bounds ≠ [] ∧ Ascending bounds) →
        ∃ refusal, ofValue metric buckets = .error (.schema metric refusal))
      ∧ (∀ v, ofValue metric v = .ok bounds → ofValue metric buckets = .ok bounds)
      ∧ (ofValue metric buckets = .ok bounds →
        prepare bounds = .ok (bounds ++ [.infinite false])
        ∧ ∀ s : Store, s.IsReadable → ∀ (help : String) (labels : List String),
          let made := s.perform (.register ⟨metric, help, .histogram buckets, labels⟩)
          made.1 = (s.objection? metric labels).elim (.ok ())
              (fun refusal => .error (.schema metric refusal))
            ∧ (s.objection? metric labels = none → ∀ es : List StoreAction,
              (made.2.performAll es).2.shape? metric = some (.histogram bounds)
                ∧ (made.2.performAll es).2.ShowsBounds metric labels
                  (bounds ++ [.infinite false]))) := by
  intro buckets
  have hbuckets : ofValue metric buckets = check metric bounds := ofValue_reals metric bounds
  have haccepted : ofValue metric buckets = .ok bounds ↔ bounds ≠ [] ∧ Ascending bounds := by
    rw [hbuckets]
    rcases check_cases metric bounds with ⟨horder, hok⟩ | ⟨hnot, refusal, herror⟩
    · exact iff_of_true hok horder
    · rw [herror]
      exact iff_of_false (fun h => by cases h) hnot
  refine ⟨haccepted, fun hnot => ?_, fun v hv => ?_, fun hok => ?_⟩
  · rw [hbuckets]
    exact ((check_cases metric bounds).resolve_left fun h => hnot h.1).2
  · exact haccepted.mpr (refusal?_eq_none_iff.mp (refusal?_of_ofValue hv))
  · obtain ⟨hne, horder⟩ := haccepted.mp hok
    refine ⟨hprepare.accepts hne horder, fun s hs help labels => ?_⟩
    intro made
    have hshape : Registration.shape ⟨metric, help, .histogram buckets, labels⟩
        = .ok (.histogram bounds) := congrArg (Except.map Shape.histogram) hok
    have hmade : made = s.enter metric help (.histogram bounds) labels :=
      Store.perform_of_shape hshape s
    have hmakes := Store.makes_enter hs metric help bounds labels
    rw [hmade]
    refine ⟨hmakes.answer, fun hnone es => ?_⟩
    have hafter := (hmakes.made hnone).performAll es
    exact ⟨hafter.shape?, hafter.showsBounds⟩

theorem accepted_everywhere_single :
    let bounds : List Binary64 := [1]
    let latency : StoreAction :=
      .register ⟨"latency", "Seconds.", .histogram (.list (bounds.map .real)), ["host"]⟩
    let es : List StoreAction := [.resolve "latency" [("host", .text "a")],
      .operate ⟨"latency", ["a"]⟩ .observe [.real 2]]
    Prepares prepare ∧ ofValue "latency" (.list (bounds.map .real)) = .ok bounds
      ∧ prepare bounds = .ok (bounds ++ [.infinite false])
      ∧ ((Store.ofMemory.perform latency).2.performAll es).2.ShowsBounds "latency" ["host"]
          (bounds ++ [.infinite false])
      ∧ ((Store.ofExposition.perform latency).2.performAll es).2.ShowsBounds "latency" ["host"]
          (bounds ++ [.infinite false]) := by
  intro bounds latency es
  obtain ⟨haccepted, -, -, hall⟩ := accepted_everywhere prepares_prepare "latency" bounds
  have hok := haccepted.mpr ⟨List.cons_ne_nil _ _, by decide +kernel, List.pairwise_singleton _ _⟩
  obtain ⟨hprepared, hstores⟩ := hall hok
  obtain ⟨hmemory, hregistry⟩ := Store.objection?_new "latency" ["host"]
  refine ⟨prepares_prepare, hok, hprepared, ?_, ?_⟩
  · exact ((hstores .ofMemory trivial "Seconds." ["host"]).2 hmemory es).2
  · exact ((hstores .ofExposition trivial "Seconds." ["host"]).2
      (hregistry.trans (by decide +kernel)) es).2

end Bounds

end QuicTelemetry
