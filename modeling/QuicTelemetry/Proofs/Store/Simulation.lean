import QuicTelemetry.Proofs.Store.Operation

/-!
# Three stores at once

`Agreeing` says what the memory store, the exposition store and a recorder have
in common, name by name and series by series, while counters and gauges are
used. Registering, resolving and operating each keep it, and it determines what
the stores show (`Agreeing.reading`).

Resolving and operating change one series of one family, so what they keep
comes down to one lemma, `Agreeing.write`. The exposition store is the one that
may refuse a family: the names it reserves have to be apart from all others.

The relation is stronger than showing the same numbers, for it has to be kept. The
recorder has no numbers at all, only the requests it was told, so a series is related
to their replay. A gauge is forwarded as the value it comes to, so the running value
that the handle works with is related, too. And a series that one store has is there in
the others, because an operation needs it there.
-/

namespace QuicTelemetry

open Binary64 (SameNumber)

/-! ## What the stores have in common -/

/-- **A series that shows one number**: in memory, in the exposition, as the
running value of a gauge, and in the requests. The number in memory may have the other
sign where it is zero: to decrease is to subtract there, and to add the negative number
elsewhere. -/
structure SeriesMatch (shape : Shape) (c : Option MemoryCell) (d : Option ExposedCell)
    (w : Option Binary64) (y : Binary64) : Prop where
  memory : ∃ x, c.getD (.value 0) = .value x ∧ SameNumber x y
  exposed : d.getD (.value 0) = .value y
  running : shape = .gauge → w.getD 0 = y
  resolved : c.isSome = true → d.isSome = true ∧ w.isSome = true

/-- **A family in three stores.** It has no buckets, no label twice and none that reading
takes for itself, and all its series match. -/
structure FamilyMatch (name : String) (r : Recorder) (f : Family MemoryCell)
    (g : Family ExposedCell) (k : MeteredFamily) : Prop where
  shape : f.shape.isHistogram = false
  nodup : f.labels.Nodup
  free : ∀ label ∈ ["self", "name"], label ∉ f.labels
  scalar : g.IsScalar
  exposed : g.shape = f.shape ∧ g.labels = f.labels
  metered : k.family.shape = f.shape ∧ k.family.labels = f.labels
  instrument : k.instrument.kind = f.shape.instrument ∧ k.instrument.name = name
  series : ∀ values, values.length = f.labels.length →
    SeriesMatch f.shape (f.cell? values) (g.cell? values) (k.family.cell? values)
      (r.replay f.shape.instrument name (f.labels.zip values))

/-- **A name in three stores**: it is registered in all of them or in none, and
then nothing was brought to it. -/
inductive NameMatch (name : String) (r : Recorder) :
    Option (Family MemoryCell) → Option (Family ExposedCell) → Option MeteredFamily → Prop where
  /-- In none. -/
  | absent (h : ∀ kind attributes, r.amounts kind name attributes = []) :
      NameMatch name r none none none
  /-- In all. -/
  | present {f : Family MemoryCell} {g : Family ExposedCell} {k : MeteredFamily}
      (h : FamilyMatch name r f g k) : NameMatch name r (some f) (some g) (some k)

/-- A name stays what it is while nothing is brought to it. The recorder writes the
requests of all names in one list, so a request for one name has to leave the replay of
all others alone. -/
theorem NameMatch.congr {name : String} {r r' : Recorder} {f : Option (Family MemoryCell)}
    {g : Option (Family ExposedCell)} {k : Option MeteredFamily} (h : NameMatch name r f g k)
    (hamounts : ∀ kind attributes, r'.amounts kind name attributes = r.amounts kind name attributes) :
    NameMatch name r' f g k := by
  cases h with
  | absent h =>
    refine .absent fun kind attributes => ?_
    rw [hamounts, h]
  | present h =>
    refine .present { h with series := fun values hlength => ?_ }
    unfold Recorder.replay
    rw [hamounts]
    exact h.series values hlength

/-- **Three stores that agree.** Names are claimed in one order, and what the exposition
store reserves is apart: a sample of one family is then never taken for that of
another. -/
structure Agreeing (m : Memory) (e : Exposition) (r : Metered Recorder) : Prop where
  exposed : e.claimed = m.families.keys
  metered : r.claimed = m.families.keys
  keys : e.families.keys.Nodup
  apart : e.signature.Pairwise Exposition.Apart
  names : ∀ name, NameMatch name r.meter (m.families.get? name) (e.families.get? name)
    (r.families.get? name)

/-- **A series that was resolved.** -/
def Memory.Resolved (m : Memory) (id : SeriesId) : Prop :=
  ∃ f, m.families.get? id.family = some f ∧ id.values.length = f.labels.length
    ∧ (f.cell? id.values).isSome = true

/-- **A family that was registered.** -/
def Memory.Registered (m : Memory) (name : String) (shape : Shape) (labels : List String) : Prop :=
  ∃ f, m.families.get? name = some f ∧ f.shape = shape ∧ f.labels = labels

/-- **A store that keeps what another has**: its families and their series. Handles that
were given out stay good by this. -/
def Memory.Keeps (m m' : Memory) : Prop :=
  ∀ name f, m.families.get? name = some f → ∃ f', m'.families.get? name = some f'
    ∧ f'.shape = f.shape ∧ f'.labels = f.labels
    ∧ ∀ values, (f.cell? values).isSome = true → (f'.cell? values).isSome = true

namespace Memory.Keeps

variable {m m' m'' : Memory}

/-- A store keeps what it has itself: so does an action that fails. -/
theorem refl (m : Memory) : m.Keeps m := fun _ f hf => ⟨f, hf, rfl, rfl, fun _ h => h⟩

theorem trans (h : m.Keeps m') (h' : m'.Keeps m'') : m.Keeps m'' := by
  intro name f hf
  obtain ⟨f', hf', hshape, hlabels, hcells⟩ := h name f hf
  obtain ⟨f'', hf'', hshape', hlabels', hcells'⟩ := h' name f' hf'
  exact ⟨f'', hf'', hshape'.trans hshape, hlabels'.trans hlabels,
    fun values hvalues => hcells' values (hcells values hvalues)⟩

/-- A store keeps what it has when one of its series is written, for a write may add a
series and never takes one away. -/
theorem of_writes {id : SeriesId} {cell : MemoryCell} (h : Writes m.families id cell m'.families) :
    m.Keeps m' := by
  intro name f hf
  by_cases heq : name = id.family
  · rw [heq] at hf ⊢
    obtain ⟨f', hf', hchanged⟩ := h.family f hf
    refine ⟨f', hf', hchanged.shape, hchanged.labels, fun values hvalues => ?_⟩
    rw [hchanged.cells]
    split
    · rfl
    · exact hvalues
  · exact ⟨f, by rw [h.others name heq]; exact hf, rfl, rfl, fun _ h => h⟩

/-- A handle that was resolved is one of the later store, too. -/
theorem resolved (h : m.Keeps m') {id : SeriesId} (hid : m.Resolved id) : m'.Resolved id := by
  obtain ⟨f, hf, hlength, hcell⟩ := hid
  obtain ⟨f', hf', -, hlabels, hcells⟩ := h _ f hf
  exact ⟨f', hf', by rw [hlabels]; exact hlength, hcells _ hcell⟩

/-- A family that was registered is one of the later store, with its shape and labels. -/
theorem registered (h : m.Keeps m') {name : String} {shape : Shape} {labels : List String}
    (hname : m.Registered name shape labels) : m'.Registered name shape labels := by
  obtain ⟨f, hf, hshape, hlabels⟩ := hname
  obtain ⟨f', hf', hshape', hlabels', -⟩ := h name f hf
  exact ⟨f', hf', hshape'.trans hshape, hlabels'.trans hlabels⟩

end Memory.Keeps

namespace Agreeing

variable {m : Memory} {e : Exposition} {r : Metered Recorder}

/-- **What memory has, all have.** The other two stores are looked up through this, so no
proof below has to think of a name that is in some of the stores and not in the others. -/
theorem present (h : Agreeing m e r) {name : String} {f : Family MemoryCell}
    (hf : m.families.get? name = some f) :
    ∃ g k, e.families.get? name = some g ∧ r.families.get? name = some k
      ∧ FamilyMatch name r.meter f g k := by
  have hname := h.names name
  rw [hf] at hname
  generalize e.families.get? name = g at hname ⊢
  generalize r.families.get? name = k at hname ⊢
  cases hname with
  | present h => exact ⟨_, _, rfl, rfl, h⟩

/-- What memory does not have, none has, and no request was made for it: a name that is
registered later starts from nothing in the recorder, too. -/
theorem absent (h : Agreeing m e r) {name : String} (hf : m.families.get? name = none) :
    e.families.get? name = none ∧ r.families.get? name = none
      ∧ ∀ kind attributes, r.meter.amounts kind name attributes = [] := by
  have hname := h.names name
  rw [hf] at hname
  generalize e.families.get? name = g at hname ⊢
  generalize r.families.get? name = k at hname ⊢
  cases hname with
  | absent h => exact ⟨rfl, rfl, h⟩

/-- Every family of the exposition has single values only. It is said from the side of the
exposition because its samples are looked for among all its families. -/
theorem scalar (h : Agreeing m e r) (name : String) (g : Family ExposedCell)
    (hg : e.families.get? name = some g) : g.IsScalar := by
  have hname := h.names name
  rw [hg] at hname
  generalize m.families.get? name = f at hname
  generalize r.families.get? name = k at hname
  cases hname with
  | present h => exact h.scalar

/-! ## Readings -/

/-- **Stores that agree show the same numbers.** A series that was never resolved shows
zero in all three, as one that was resolved and not used does. -/
theorem reading (h : Agreeing m e r) {name : String} {f : Family MemoryCell}
    (hf : m.families.get? name = some f) {values : List String}
    (hlength : values.length = f.labels.length) :
    ∃ x y, (Store.memory m).reading f.shape name f.labels values = .ok x
      ∧ (Store.exposition e).reading f.shape name f.labels values = .ok y
      ∧ (Store.recorder r).reading f.shape name f.labels values = .ok y
      ∧ SameNumber x y := by
  obtain ⟨g, k, hg, -, hfamily⟩ := h.present hf
  obtain ⟨⟨x, hx, hxy⟩, hy, -, -⟩ := hfamily.series values hlength
  refine ⟨x, _, Memory.value_of hf hfamily.shape hfamily.nodup hfamily.free hlength hx, ?_, rfl, hxy⟩
  obtain ⟨hshape, hlabels⟩ := hfamily.exposed
  have hsample := Exposition.sample?_exportedName h.apart h.scalar hg
    (hlabels.symm ▸ hfamily.nodup) (hlength.trans (congrArg _ hlabels.symm))
  rw [hshape, hlabels] at hsample
  -- a series without a sample reads as zero, which is what the others show of it
  show Except.ok (Option.getD (e.sample? _ _) 0) = _
  rw [hsample]
  congr 1
  cases hd : g.cell? values with
  | none =>
    rw [hd] at hy
    exact ExposedCell.value.inj hy
  | some cell =>
    rw [hd] at hy
    obtain rfl : cell = _ := hy
    rfl

/-! ## Registering -/

/-- A family none of whose names is reserved is apart from all. -/
theorem apart_of_filter (e : Exposition) {shape : Shape} {name : String}
    (h : (Exposition.reserved shape name).filter e.allReserved.contains = []) :
    ∀ entry ∈ e.signature, Exposition.Apart entry (name, shape) := by
  intro entry hentry reserved hmem hnew
  have hall : reserved ∈ e.allReserved := by
    rw [Exposition.allReserved_eq]
    exact List.mem_flatMap.mpr ⟨entry, hentry, hmem⟩
  have hfilter := List.filter_eq_nil_iff.mp h reserved hnew
  exact hfilter (List.contains_iff_mem.mpr hall)

/-- A family that is not refused reserves no name that is reserved. -/
theorem filter_of_refusal? {name : String} {shape : Shape} {labels : List String}
    (h : e.refusal? name shape labels = none) :
    (Exposition.reserved shape name).filter e.allReserved.contains = [] := by
  unfold Exposition.refusal? at h
  split at h
  · cases h
  · split at h
    · cases h
    · split at h
      · cases h
      · split at h
        · next heq => exact heq
        · cases h

/-- What the exposition store accepts is new to it, and shares no name with its
families. -/
theorem accepted {name help : String} {shape : Shape} {labels : List String}
    (haccepts : (e.register name help shape labels).1.isOk = true) :
    name ∉ e.claimed
      ∧ (Exposition.reserved shape name).filter e.allReserved.contains = []
      ∧ e.register name help shape labels
        = (.ok (), { e with claimed := e.claimed ++ [name] }.enter name help shape labels) := by
  unfold Exposition.register at haccepts ⊢
  by_cases hclaimed : e.claimed.contains name = true
  · rw [if_pos hclaimed] at haccepts
    exact absurd haccepts Bool.false_ne_true
  · rw [if_neg hclaimed] at haccepts ⊢
    refine ⟨fun hmem => hclaimed (List.contains_iff_mem.mpr hmem), ?_⟩
    cases hrefusal : { e with claimed := e.claimed ++ [name] }.refusal? name shape labels with
    | some refusal =>
      simp only [hrefusal] at haccepts
      exact absurd haccepts Bool.false_ne_true
    | none =>
      refine ⟨filter_of_refusal? hrefusal, ?_⟩
      simp only [hrefusal]

/-- A family matches itself where nothing has happened in it. The exposition store
resolves the one series of a family without labels when it registers it, and the others
do not, but a fresh series shows the zero that a missing one shows. -/
theorem familyMatch_new (name help : String) {shape : Shape} {labels : List String}
    (hshape : shape.isHistogram = false) (hnodup : labels.Nodup)
    (hfree : ∀ label ∈ ["self", "name"], label ∉ labels) {requests : Recorder}
    (hrequests : ∀ kind attributes, requests.amounts kind name attributes = []) :
    FamilyMatch name requests { help, shape, labels }
      (if labels.isEmpty then Family.ensure { help, shape, labels } [] (.fresh shape)
        else { help, shape, labels })
      ⟨⟨shape.instrument, name, 0⟩, { help, shape, labels }⟩ := by
  have hfresh := ExposedCell.fresh_of_scalar hshape
  have hscalar : Family.IsScalar { help, shape, labels } :=
    ⟨hshape, fun entry hentry => absurd hentry List.not_mem_nil⟩
  have hempty (values : List String) :
      Family.cell? ({ help, shape, labels } : Family ExposedCell) values = none := rfl
  refine ⟨hshape, hnodup, hfree, ?_, ?_, ⟨rfl, rfl⟩, ⟨rfl, rfl⟩, fun values _ => ?_⟩
  · split
    · next hlabels =>
      rw [hfresh]
      exact Exposition.isScalar_ensure hscalar (by rw [List.isEmpty_iff.mp hlabels]) 0
    · exact hscalar
  · split
    · exact ⟨Family.shape_ensure _ _ _, Family.labels_ensure _ _ _⟩
    · exact ⟨rfl, rfl⟩
  · have hreplay := Recorder.replay_of_amounts_eq_nil
      (hrequests shape.instrument (labels.zip values))
    refine ⟨⟨0, rfl, ?_⟩, ?_, fun _ => hreplay.symm, fun h => absurd h Bool.false_ne_true⟩
    · rw [hreplay]
      exact .refl 0
    · rw [hreplay]
      split
      · rw [Family.cell?_ensure, hempty, hfresh, hempty]
        split <;> rfl
      · rfl

/-- **A family that is new to all three** is one in which they agree, if the names that
it reserves are not reserved. -/
theorem push (h : Agreeing m e r) {name : String} {f : Family MemoryCell} {g : Family ExposedCell}
    {k : MeteredFamily} {e' : Exposition} {r' : Metered Recorder}
    (hnone : m.families.get? name = none)
    (hfilter : (Exposition.reserved f.shape name).filter e.allReserved.contains = [])
    (hfamily : FamilyMatch name r'.meter f g k) (heclaimed : e'.claimed = e.claimed ++ [name])
    (hefamilies : e'.families = e.families.push name g)
    (hrclaimed : r'.claimed = r.claimed ++ [name])
    (hrfamilies : r'.families = r.families.push name k)
    (hamounts : ∀ kind name attributes,
      r'.meter.amounts kind name attributes = r.meter.amounts kind name attributes) :
    Agreeing ⟨m.families.push name f⟩ e' r' := by
  obtain ⟨hnowhere, hnowhere', -⟩ := h.absent hnone
  refine ⟨?_, ?_, ?_, ?_, fun name' => ?_⟩
  · rw [heclaimed, Table.keys_push, h.exposed]
  · rw [hrclaimed, Table.keys_push, h.metered]
  -- the name is in none of the stores, so the exposition has it once
  · rw [hefamilies, Table.keys_push, List.nodup_append]
    refine ⟨h.keys, List.nodup_singleton _, fun a ha b hb => ?_⟩
    rw [List.mem_singleton.mp hb]
    rintro rfl
    have hhas := (Table.has_iff_mem_keys _ _).mpr ha
    rw [Table.has, hnowhere] at hhas
    exact absurd hhas Bool.false_ne_true
  -- none of the names that the family reserves was reserved before
  · unfold Exposition.signature
    rw [hefamilies]
    unfold Table.push
    rw [List.map_append, List.pairwise_append]
    refine ⟨h.apart, List.pairwise_singleton _ _, fun a ha b hb => ?_⟩
    obtain rfl := List.mem_singleton.mp hb
    show Exposition.Apart a (name, g.shape)
    rw [hfamily.exposed.1]
    exact apart_of_filter e hfilter a ha
  · rw [hefamilies, hrfamilies, Table.get?_push, Table.get?_push, Table.get?_push]
    by_cases heq : name = name'
    · rw [if_pos heq, if_pos heq, if_pos heq, ← heq, hnone, hnowhere, hnowhere']
      exact .present hfamily
    · rw [if_neg heq, if_neg heq, if_neg heq, Option.or_none, Option.or_none, Option.or_none]
      exact (h.names name').congr fun kind attributes => hamounts kind name' attributes

/-- **What the exposition store accepts, all three accept**, and go on agreeing. The
others refuse a name that is claimed and nothing else, and the names that are claimed are
the same. -/
theorem register (h : Agreeing m e r) {name help : String} {shape : Shape} {labels : List String}
    (hshape : shape.isHistogram = false) (hnodup : labels.Nodup)
    (hfree : ∀ label ∈ ["self", "name"], label ∉ labels)
    (haccepts : (e.register name help shape labels).1.isOk = true) :
    (m.register name help shape labels).1 = .ok ()
      ∧ (e.register name help shape labels).1 = .ok ()
      ∧ (r.register name help shape labels).1 = .ok ()
      ∧ m.Keeps (m.register name help shape labels).2
      ∧ (m.register name help shape labels).2.Registered name shape labels
      ∧ Agreeing (m.register name help shape labels).2 (e.register name help shape labels).2
          (r.register name help shape labels).2 := by
  obtain ⟨hnew, hfilter, hexposed⟩ := accepted haccepts
  have hkeys : name ∉ m.families.keys := h.exposed ▸ hnew
  have hmemory : m.register name help shape labels
      = (.ok (), ⟨m.families.push name { help, shape, labels }⟩) := by
    unfold Memory.register
    rw [if_neg fun hhas => hkeys ((Table.has_iff_mem_keys _ _).mp hhas)]
  have hmetered : r.register name help shape labels
      = (.ok (), { meter := ⟨r.meter.requests ++ [.create shape.instrument name help]⟩,
                   claimed := r.claimed ++ [name],
                   families := r.families.push name
                    ⟨⟨shape.instrument, name, 0⟩, { help, shape, labels }⟩ }) := by
    unfold Metered.register
    rw [if_neg fun hclaimed => hkeys (h.metered ▸ List.contains_iff_mem.mp hclaimed)]
    rfl
  -- the request for an instrument brings nothing to any series
  have hamounts (kind : InstrumentKind) (name' : String) (attributes : Attributes) :
      (⟨r.meter.requests ++ [.create shape.instrument name help]⟩ : Recorder).amounts
        kind name' attributes = r.meter.amounts kind name' attributes := by
    rw [Recorder.amounts_push]
    exact List.append_nil _
  have hnone : m.families.get? name = none := by
    rw [← Option.not_isSome_iff_eq_none]
    exact fun hhas => hkeys ((Table.has_iff_mem_keys _ _).mp hhas)
  obtain ⟨-, -, hnothing⟩ := h.absent hnone
  have hfamily := familyMatch_new name help hshape hnodup hfree
    fun kind attributes => (hamounts kind name attributes).trans (hnothing kind attributes)
  rw [hmemory, hexposed, hmetered]
  refine ⟨rfl, rfl, rfl, fun name' f hf => ⟨f, ?_, rfl, rfl, fun _ h => h⟩,
    ⟨{ help, shape, labels }, ?_, rfl, rfl⟩,
    h.push hnone hfilter hfamily rfl rfl rfl rfl hamounts⟩
  · show (m.families.push name _).get? name' = some f
    rw [Table.get?_push, hf]
    rfl
  · show (m.families.push name _).get? name = _
    rw [Table.get?_push, hnone, if_pos rfl]
    rfl

/-! ## Writing to a series -/

/-- Values of one family are told apart by their labelling, which is what the recorder
has of them. -/
theorem values_eq_of_zip {names values values' : List String}
    (hlength : values.length = names.length) (hlength' : values'.length = names.length)
    (h : names.zip values = names.zip values') : values = values' := by
  rw [← List.map_snd_zip (Nat.le_of_eq hlength), h, List.map_snd_zip (Nat.le_of_eq hlength')]

/-- **Stores go on agreeing** if one series comes to the same number in all. Every other
name is left alone, every other series of the name keeps its number, and for the series
itself the three hypotheses say what it comes to. -/
theorem write (h : Agreeing m e r) {id : SeriesId} {f : Family MemoryCell} {k : MeteredFamily}
    (hf : m.families.get? id.family = some f) (hk : r.families.get? id.family = some k)
    (hlength : id.values.length = f.labels.length) {x y : Binary64} (hxy : SameNumber x y)
    {m' : Memory} {e' : Exposition} {r' : Metered Recorder}
    (hm : Writes m.families id (.value x) m'.families) (he : e.Shows id y e')
    (hr : r.Shows id k y r') : Agreeing m' e' r' := by
  obtain ⟨g, k₀, hg, hk₀, hfamily⟩ := h.present hf
  obtain rfl := Option.some.inj (hk.symm.trans hk₀)
  obtain ⟨hkind, hname⟩ := hfamily.instrument
  refine ⟨?_, ?_, ?_, ?_, fun name => ?_⟩
  · rw [he.claimed, hm.keys, h.exposed]
  · rw [hr.claimed, hm.keys, h.metered]
  · rw [he.writes.keys]
    exact h.keys
  · rw [he.signature]
    exact h.apart
  · by_cases heq : name = id.family
    · obtain rfl := heq
      obtain ⟨f', hf', hfc⟩ := hm.family f hf
      obtain ⟨g', hg', hgc⟩ := he.writes.family g hg
      obtain ⟨k', running, hk', hinstrument, hkc, hrunning⟩ := hr.family
      rw [hf', hg', hk']
      have hlabelling (values : List String) :
          k.family.labelling values = f.labels.zip values := by
        rw [Family.labelling, hfamily.metered.2]
      refine .present ⟨?_, ?_, ?_, he.scalar g g' hg hg' hfamily.scalar, ?_, ?_, ?_, ?_⟩
      · rw [hfc.shape]
        exact hfamily.shape
      · rw [hfc.labels]
        exact hfamily.nodup
      · rw [hfc.labels]
        exact hfamily.free
      · rw [hfc.shape, hfc.labels, hgc.shape, hgc.labels]
        exact hfamily.exposed
      · rw [hfc.shape, hfc.labels, hkc.shape, hkc.labels]
        exact hfamily.metered
      · rw [hinstrument, hfc.shape]
        exact hfamily.instrument
      · intro values hvalues
        rw [hfc.labels] at hvalues
        rw [hfc.shape, hfc.labels, hfc.cells, hgc.cells, hkc.cells]
        by_cases hsame : values = id.values
        -- the series that was written
        · have hreplay := hr.replay
          rw [hkind, hname, hlabelling] at hreplay
          rw [if_pos hsame, if_pos hsame, if_pos hsame, hsame, hreplay]
          refine ⟨⟨x, rfl, hxy⟩, rfl, fun hgauge => ?_, fun _ => ⟨rfl, rfl⟩⟩
          exact hrunning (hfamily.metered.1.trans hgauge)
        -- another one of the family, whose labelling is another, too
        · have hreplay : r'.meter.replay f.shape.instrument id.family (f.labels.zip values)
              = r.meter.replay f.shape.instrument id.family (f.labels.zip values) := by
            unfold Recorder.replay
            rw [hr.elsewhere]
            rintro ⟨-, -, hzip⟩
            rw [hlabelling] at hzip
            exact hsame (values_eq_of_zip hvalues hlength hzip)
          rw [if_neg hsame, if_neg hsame, if_neg hsame, hreplay]
          exact hfamily.series values hvalues
    -- another family
    · rw [hm.others name heq, he.writes.others name heq, hr.others name heq]
      refine (h.names name).congr fun kind attributes => hr.elsewhere _ _ _ ?_
      rintro ⟨-, hname', -⟩
      exact heq (hname'.trans hname)

/-! ## Operating -/

/-- **An operation has one outcome** in stores that agree, and they go on
agreeing. Each store's operation is computed by itself before (`Memory.call_of_value` and
the like), so what is left is that the three computations have one result. -/
theorem call (h : Agreeing m e r) {id : SeriesId} (hid : m.Resolved id) (verb : Verb)
    {argument : Option Value} (hrange : ∀ v ∈ argument, v.InRange) :
    (e.call id verb argument.toList).1 = (m.call id verb argument.toList).1
      ∧ (r.call id verb argument.toList).1 = (m.call id verb argument.toList).1
      ∧ m.Keeps (m.call id verb argument.toList).2
      ∧ Agreeing (m.call id verb argument.toList).2 (e.call id verb argument.toList).2
          (r.call id verb argument.toList).2 := by
  obtain ⟨f, hf, hlength, hcell⟩ := hid
  obtain ⟨g, k, hg, hk, hfamily⟩ := h.present hf
  obtain ⟨hshape, hlabels⟩ := hfamily.metered
  obtain ⟨hkind, hname⟩ := hfamily.instrument
  obtain ⟨⟨x, hx, hxy⟩, hy, hw, hresolved⟩ := hfamily.series id.values hlength
  obtain ⟨c, hc⟩ := Option.isSome_iff_exists.mp hcell
  obtain ⟨d, hd⟩ := Option.isSome_iff_exists.mp (hresolved hcell).1
  obtain ⟨w, hrunning⟩ := Option.isSome_iff_exists.mp (hresolved hcell).2
  rw [hc] at hx
  rw [hd] at hy
  rw [hrunning] at hw
  obtain rfl : c = .value x := hx
  obtain rfl : d = .value _ := hy
  have hreplay : r.meter.replay k.instrument.kind k.instrument.name (k.family.labelling id.values)
      = r.meter.replay f.shape.instrument id.family (f.labels.zip id.values) := by
    rw [hkind, hname, Family.labelling, hlabels]
  -- what the operation does in each of the stores, in terms of `Shape.operated`
  obtain ⟨hm, hwrites⟩ := Memory.call_of_value hf hfamily.shape hc verb argument.toList
  obtain ⟨he, hexposed⟩ := Exposition.call_of_value hg hfamily.scalar.1 hd verb argument
  obtain ⟨hr, hmetered⟩ := Metered.call_of_value hk (by rw [hshape]; exact hfamily.shape)
    (by rw [hkind, hshape]) hrunning (fun hgauge => by rw [hreplay]; exact hw (hshape ▸ hgauge))
    verb hrange
  rw [hfamily.exposed.1] at he hexposed
  rw [hshape, hreplay] at hr hmetered
  have hsame := f.shape.operated_same hxy verb argument.toList
  have hunit {p q : Except Fault Binary64} (hpq : SameResult p q) :
      q.map (fun _ => ()) = p.map fun _ => () := by
    cases hpq <;> rfl
  refine ⟨?_, ?_, .of_writes hwrites, ?_⟩
  · rw [hm, he, hunit hsame]
  · rw [hm, hr, hunit hsame]
  · exact h.write hf hk hlength (hsame.getD hxy) hwrites hexposed hmetered

/-! ## Resolving -/

/-- The check of the labels of an exposed series. It compares them in order, with words of
its own for labels that are given where there are none and the other way round, but it
refuses the same labels as a comparison of sets if none comes twice. -/
theorem seriesOf_exposed (name : String) {g : Family ExposedCell} (hnodup : g.labels.Nodup)
    {given : Labelling} (hgiven : (given.map Prod.fst).Nodup) :
    if sameNames g.labels (given.map Prod.fst) = true then
      Exposition.seriesOf name g given = .ok ⟨name, given.values g.labels⟩
    else ∃ fault, Exposition.seriesOf name g given = .error fault ∧ fault.kind = .value := by
  have hsort := sameNames_iff_sortTexts_eq hnodup hgiven
  unfold Exposition.seriesOf
  cases hl : g.labels with
  | nil =>
    cases hn : given.map Prod.fst with
    | nil => exact rfl
    | cons n names => exact ⟨_, rfl, rfl⟩
  | cons l labels =>
    cases hn : given.map Prod.fst with
    | nil =>
      have hnot : sameNames (l :: labels) [] = false := by simp [sameNames]
      rw [hnot]
      exact ⟨_, rfl, rfl⟩
    | cons n names =>
      rw [hl, hn] at hsort
      simp only [List.isEmpty_cons, Bool.false_eq_true, if_false]
      split
      · next hsame => rw [if_pos (hsort.mp hsame)]
      · next hsame =>
        rw [if_neg fun heq => hsame (hsort.mpr heq)]
        exact ⟨_, rfl, rfl⟩

/-- **A series that is asked for exists** in stores that agree, and they go on
agreeing. To make a series is to write the number that it shows without being there, so
this is a case of `write`, and nothing has to be said of whether it was there before. -/
theorem ensure (h : Agreeing m e r) {id : SeriesId} {f : Family MemoryCell}
    {g : Family ExposedCell} {k : MeteredFamily} (hf : m.families.get? id.family = some f)
    (hg : e.families.get? id.family = some g) (hk : r.families.get? id.family = some k)
    (hfamily : FamilyMatch id.family r.meter f g k)
    (hlength : id.values.length = f.labels.length) {m' : Memory} {e' : Exposition}
    {r' : Metered Recorder}
    (hm' : m' = ⟨m.families.adjust id.family fun f => f.ensure id.values (.fresh f.shape)⟩)
    (he' : e' = { e with families := e.families.adjust id.family fun g =>
                    g.ensure id.values (.fresh g.shape) })
    (hr' : r' = { r with families := r.families.adjust id.family fun k =>
                    { k with family := k.family.ensure id.values 0 } }) :
    m'.Resolved id ∧ m.Keeps m' ∧ Agreeing m' e' r' := by
  subst hm' he' hr'
  obtain ⟨⟨x, hx, hxy⟩, hy, hw, -⟩ := hfamily.series _ hlength
  -- a fresh cell has the number that a missing one shows
  have hwrites : Writes m.families id (.value x) (m.families.adjust id.family fun f =>
      f.ensure id.values (.fresh f.shape)) := by
    have hchanged := Family.Changed.ensure f id.values (.fresh f.shape)
    rw [MemoryCell.fresh_of_scalar hfamily.shape, hx,
      ← MemoryCell.fresh_of_scalar hfamily.shape] at hchanged
    exact .adjust hf hchanged
  have hshows : e.Shows id (r.meter.replay f.shape.instrument id.family (f.labels.zip id.values))
      { e with families := e.families.adjust id.family fun g =>
          g.ensure id.values (.fresh g.shape) } := by
    have hfresh := ExposedCell.fresh_of_scalar hfamily.scalar.1
    have hchanged := Family.Changed.ensure g id.values (.fresh g.shape)
    rw [hfresh, hy, ← hfresh] at hchanged
    refine .adjust hg (fun _ => Family.shape_ensure _ _ _) hchanged fun hscalar => ?_
    rw [hfresh]
    exact Exposition.isScalar_ensure hscalar (hfamily.exposed.2 ▸ hlength) 0
  have hreplay : r.meter.replay k.instrument.kind k.instrument.name (k.family.labelling id.values)
      = r.meter.replay f.shape.instrument id.family (f.labels.zip id.values) := by
    rw [hfamily.instrument.1, hfamily.instrument.2, Family.labelling, hfamily.metered.2]
  have hrecorded := Metered.Shows.ensure hk fun hgauge =>
    (hw (hfamily.metered.1 ▸ hgauge)).trans hreplay.symm
  rw [hreplay] at hrecorded
  refine ⟨?_, .of_writes hwrites, h.write hf hk hlength hxy hwrites hshows hrecorded⟩
  obtain ⟨f', hf', hchanged⟩ := hwrites.family f hf
  refine ⟨f', hf', by rw [hchanged.labels]; exact hlength, ?_⟩
  rw [hchanged.cells, if_pos rfl]
  rfl

/-- **Resolving a series has one outcome** in stores that agree: they find the
same series and go on agreeing, or they refuse it with faults of one kind. Only the kind
is common to all: the texts of the exposition store are those of its library. -/
theorem resolve (h : Agreeing m e r) (name : String) {given : Labelling}
    (hgiven : (given.map Prod.fst).Nodup) :
    (∃ id, (m.resolve name given).1 = .ok id ∧ (e.resolve name given).1 = .ok id
        ∧ (r.resolve name given).1 = .ok id ∧ (m.resolve name given).2.Resolved id
        ∧ m.Keeps (m.resolve name given).2
        ∧ Agreeing (m.resolve name given).2 (e.resolve name given).2 (r.resolve name given).2)
      ∨ ∃ a b c, m.resolve name given = (.error a, m) ∧ e.resolve name given = (.error b, e)
        ∧ r.resolve name given = (.error c, r) ∧ b.kind = a.kind ∧ c.kind = a.kind := by
  cases hf : m.families.get? name with
  | none =>
    obtain ⟨hg, hk, -⟩ := h.absent hf
    refine .inr ⟨.missingKey, .missingKey, .missingKey, ?_, ?_, ?_, rfl, rfl⟩
    · simp only [Memory.resolve, hf]
    · simp only [Exposition.resolve, hg]
    · simp only [Metered.resolve, hk]
  | some f =>
    obtain ⟨g, k, hg, hk, hfamily⟩ := h.present hf
    -- a label that is named as the method's own parameter never gets to the store
    by_cases hself : given.clashes ["self"] = true
    · refine .inr ⟨.mistyped, .mistyped, .mistyped, ?_, ?_, ?_, rfl, rfl⟩
      · simp only [Memory.resolve, hf, hself, if_true]
      · simp only [Exposition.resolve, hg, hself, if_true]
      · simp only [Metered.resolve, hk, hself, if_true]
    · have hexposed := seriesOf_exposed name (hfamily.exposed.2 ▸ hfamily.nodup : g.labels.Nodup)
        hgiven
      rw [hfamily.exposed.2] at hexposed
      by_cases hsame : sameNames f.labels (given.map Prod.fst) = true
      -- the labels are those of the family
      · rw [if_pos hsame] at hexposed
        refine .inl ⟨⟨name, given.values f.labels⟩, ?_⟩
        have hmemory : m.resolve name given = (.ok ⟨name, given.values f.labels⟩,
            ⟨m.families.adjust name fun f' =>
              f'.ensure (given.values f.labels) (.fresh f'.shape)⟩) := by
          simp only [Memory.resolve, hf, hself, Memory.seriesOf, checkLabels, hsame]
          rfl
        have hexposition : e.resolve name given = (.ok ⟨name, given.values f.labels⟩,
            { e with families := e.families.adjust name fun g' =>
                g'.ensure (given.values f.labels) (.fresh g'.shape) }) := by
          simp only [Exposition.resolve, hg, hself, hexposed]
          rfl
        have hmetered : r.resolve name given = (.ok ⟨name, given.values f.labels⟩,
            { r with families := r.families.adjust name fun k' =>
                { k' with family := k'.family.ensure (given.values f.labels) 0 } }) := by
          simp only [Metered.resolve, hk, hself, checkLabels, hfamily.metered.2, hsame]
          rfl
        rw [hmemory, hexposition, hmetered]
        let id : SeriesId := ⟨name, given.values f.labels⟩
        have hf' : m.families.get? id.family = some f := hf
        exact ⟨rfl, rfl, rfl,
          h.ensure hf' hg hk hfamily (List.length_map given.text) rfl rfl rfl⟩
      -- they are not, and nothing has changed
      · rw [if_neg hsame] at hexposed
        obtain ⟨fault, hfault, hvalue⟩ := hexposed
        let wrong : Fault := .wrongLabels name (sortTexts f.labels)
          (sortTexts (distinctTexts (given.map Prod.fst)))
        refine .inr ⟨wrong, fault, wrong, ?_, ?_, ?_, hvalue, rfl⟩
        · simp only [Memory.resolve, hf, hself, Memory.seriesOf, checkLabels, hsame]
          rfl
        · simp only [Exposition.resolve, hg, hself, hfault]
          rfl
        · simp only [Metered.resolve, hk, hself, checkLabels, hfamily.metered.2, hsame]
          rfl

end Agreeing

end QuicTelemetry
