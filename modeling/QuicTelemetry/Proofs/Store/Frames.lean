import QuicTelemetry.Proofs.Facade.Build
import QuicTelemetry.Proofs.Store.Names
import QuicTelemetry.Proofs.Store.Registration

/-!
# What reaches no further than one family

To resolve a series or to operate on its handle changes the family of the series
and nothing else of the store (`Store.Touches`). Whoever reads another metric
reads the same: the values and snapshots in memory, and what a scraper reads of
it. A sample is found by its name alone, so for the scraper it matters that
**no family has a sample under a name that another one reserves**
(`Exposition.sample?_adjust`).

`Store.Lists` says which metrics are registered, in which namespaces. A metric
that is not yet among them can always be registered, as names of metrics in
namespaces are never shared.
-/

namespace QuicTelemetry

theorem Table.adjust_id {ν : Type} (t : Table String ν) (key : String) :
    t.adjust key (fun v => v) = t := by
  unfold adjust
  rw [show (fun e : String × ν => if e.1 = key then (e.1, e.2) else e) = fun e => e from
    funext fun e => by split <;> rfl, List.map_id']

/-! ## Touching a family -/

namespace Store

/-- Whether series can be read back from a store. -/
def IsReadable : Store → Prop
  | .memory _ | .exposition _ => True
  | .recorder _ | .pipeline _ => False

/-- **Stores that differ in the series of one family**, if they differ. The family keeps its
shape, and with it the names of its samples. -/
inductive Touches (name : String) : Store → Store → Prop
  /-- In memory. -/
  | memory {m : Memory} (change : Family MemoryCell → Family MemoryCell) :
    (∀ f, (change f).shape = f.shape) →
      Touches name (.memory m) (.memory ⟨m.families.adjust name change⟩)
  /-- On a registry. -/
  | exposition {e : Exposition} (change : Family ExposedCell → Family ExposedCell) :
    (∀ f, (change f).shape = f.shape) →
      Touches name (.exposition e) (.exposition { e with families := e.families.adjust name change })

theorem Touches.refl {s : Store} (h : s.IsReadable) (name : String) : s.Touches name s := by
  cases s with
  | memory m =>
    have htouches : Touches name (.memory m) _ := .memory (fun f => f) fun _ => rfl
    rwa [Table.adjust_id] at htouches
  | exposition e =>
    have htouches : Touches name (.exposition e) _ := .exposition (fun f => f) fun _ => rfl
    rwa [Table.adjust_id] at htouches
  | recorder m => exact h.elim
  | pipeline m => exact h.elim

end Store

theorem Memory.touches_setCell (m : Memory) (id : SeriesId) (cell : MemoryCell) :
    (Store.memory m).Touches id.family (.memory (m.setCell id cell)) :=
  .memory (fun f => f.adjust id.values fun _ => cell) fun _ => rfl

theorem Exposition.touches_setCell (e : Exposition) (id : SeriesId) (cell : ExposedCell) :
    (Store.exposition e).Touches id.family (.exposition (e.setCell id cell)) :=
  .exposition (fun f => f.adjust id.values fun _ => cell) fun _ => rfl

namespace Store

/-- **Resolving a series** reaches no further than its family. If it is refused it reaches
nothing, which is to change the family to itself. -/
theorem touches_resolve {s : Store} (h : s.IsReadable) (name : String) (given : Labelling) :
    s.Touches name (s.resolve name given).2 := by
  cases s with
  | memory m =>
    show Touches name _ (.memory (m.resolve name given).2)
    unfold Memory.resolve
    cases m.families.get? name with
    | none => exact .refl h name
    | some family =>
      dsimp only
      split
      · exact .refl h name
      · split
        · exact .refl h name
        · exact .memory (fun f => f.ensure _ (.fresh f.shape)) fun _ => Family.shape_ensure ..
  | exposition e =>
    show Touches name _ (.exposition (e.resolve name given).2)
    unfold Exposition.resolve
    cases e.families.get? name with
    | none => exact .refl h name
    | some family =>
      dsimp only
      split
      · exact .refl h name
      · split
        · exact .refl h name
        · exact .exposition (fun f => f.ensure _ (.fresh f.shape)) fun _ => Family.shape_ensure ..
  | recorder m => exact h.elim
  | pipeline m => exact h.elim

/-- **Operating on a handle** reaches no further than the family of its series. -/
theorem touches_call {s : Store} (h : s.IsReadable) (id : SeriesId) (verb : Verb)
    (args : List Value) : s.Touches id.family (s.call id verb args).2 := by
  cases s with
  | memory m =>
    show Touches id.family _ (.memory (m.call id verb args).2)
    unfold Memory.call
    split
    · split
      · exact .refl h _
      · exact m.touches_setCell id _
    · exact .refl h _
  | exposition e =>
    show Touches id.family _ (.exposition (e.call id verb args).2)
    unfold Exposition.call
    split
    · split
      · exact .refl h _
      · dsimp only
        split
        · exact .refl h _
        · split
          · exact e.touches_setCell id _
          · split <;> exact e.touches_setCell id _
    · exact .refl h _
  | recorder m => exact h.elim
  | pipeline m => exact h.elim

/-- **A resolved series is of the family that was asked for.** -/
theorem family_of_resolve {s : Store} {name : String} {given : Labelling} {id : SeriesId}
    (h : (s.resolve name given).1 = .ok id) : id.family = name := by
  have hmetered {M : Type} {m : Metered M} (h : (m.resolve name given).1 = .ok id) :
      id.family = name := by
    unfold Metered.resolve at h
    split at h
    · cases h
    · split at h
      · cases h
      · split at h
        · cases h
        · cases h
          rfl
  cases s with
  | memory m =>
    change (m.resolve name given).1 = .ok id at h
    unfold Memory.resolve Memory.seriesOf at h
    split at h
    · cases h
    · next family _ =>
      cases hlabels : checkLabels name family.labels (given.map Prod.fst) with
      | error fault =>
        simp only [hlabels, bind, Except.bind] at h
        split at h <;> cases h
      | ok done =>
        simp only [hlabels, bind, Except.bind] at h
        split at h
        · cases h
        · cases h
          rfl
  | exposition e =>
    change (e.resolve name given).1 = .ok id at h
    unfold Exposition.resolve Exposition.seriesOf at h
    split at h
    · cases h
    · split at h
      · cases h
      · dsimp only at h
        split at h
        · cases h
        · next hseries =>
          cases h
          split at hseries
          · split at hseries
            · cases hseries
              rfl
            · cases hseries
          · split at hseries
            · cases hseries
            · split at hseries
              · cases hseries
                rfl
              · cases hseries
  | recorder m => exact hmetered h
  | pipeline m => exact hmetered h

/-! ## Readings -/

/-- **What is read of a metric is the same** in two stores: its series with their
values and snapshots in memory, its samples and its lines on a registry. -/
def SameReadings (shape : Shape) (name : String) : Store → Store → Prop
  | .memory m, .memory m' => m'.series name = m.series name
    ∧ ∀ given, m'.value name given = m.value name given
      ∧ m'.histogram name given = m.histogram name given
  | .exposition e, .exposition e' =>
    (∀ sample ∈ Exposition.reserved shape name, ∀ given,
        e'.sample? sample given = e.sample? sample given)
      ∧ (e'.families.get? name).map (Exposition.familyLines name)
        = (e.families.get? name).map (Exposition.familyLines name)
  | _, _ => False

end Store

/-- **A sample of a family that is not touched** stays. A scraper searches the samples of all
families, those of the one that is touched among them. None of these has the name that is
searched for, neither before nor after, so the search passes over them. -/
theorem Exposition.sample?_adjust {e : Exposition} {name : String}
    {change : Family ExposedCell → Family ExposedCell} (hkeeps : ∀ f, (change f).shape = f.shape)
    {sample : String}
    (hother : ∀ family, (name, family) ∈ e.families.entries → sample ∉ reserved family.shape name)
    (given : Labelling) :
    Exposition.sample? { e with families := e.families.adjust name change } sample given
      = e.sample? sample given := by
  obtain ⟨claimed, ⟨entries⟩⟩ := e
  unfold sample? samples Table.adjust
  dsimp only at hother ⊢
  refine congrArg (Option.map Sample.value) ?_
  induction entries with
  | nil => rfl
  | cons entry entries ih =>
    rw [List.map_cons, List.flatMap_cons, List.flatMap_cons, List.find?_append, List.find?_append,
      ih fun family hmem => hother family (List.mem_cons_of_mem _ hmem)]
    obtain ⟨key, family⟩ := entry
    dsimp only
    split
    · next heq =>
      subst heq
      have hreserved := hother family List.mem_cons_self
      have hnone {family' : Family ExposedCell} (hshape : family'.shape = family.shape) :
          (familySamples key family').find? (fun s => s.name == sample && matchesLabels s given)
            = none := by
        refine List.find?_eq_none.mpr fun s hs hfound => hreserved ?_
        have hname := name_mem_reserved hs
        rw [Bool.and_eq_true, beq_iff_eq] at hfound
        rwa [hfound.1, hshape] at hname
      rw [hnone (hkeeps family), hnone rfl]
    · rfl

/-! ## Registered metrics -/

/-- No metric of the catalogue has a label that a registry reserves. -/
theorem Catalogue.labelRefusal?_eq_none : ∀ metric ∈ all,
    Exposition.labelRefusal? (Facade.shapeOf metric) metric.labels = none := by
  have h : ∀ metric ∈ all,
      (Exposition.labelRefusal? (Facade.shapeOf metric) metric.labels).isNone = true := by
    decide +kernel
  exact fun metric hmetric => Option.isNone_iff_eq_none.mp (h metric hmetric)

/-- The name of a metric is not empty. -/
theorem Catalogue.qualify_ne_empty {metric : Metric} (h : metric ∈ all) (space : Option String) :
    qualify space metric.name ≠ "" := by
  intro heq
  have hlist := congrArg String.toList heq
  rw [qualify_eq_append, String.toList_append] at hlist
  exact (getLast?_name_ne metric h).1 (List.append_eq_nil_iff.mp hlist).2

namespace Exposition

variable {e : Exposition} {space : Option String} {metric : Metric}

/-- A registry takes a metric that shares no reserved name with its families. -/
theorem refusal?_of_apart (hmetric : metric ∈ Catalogue.all)
    (hapart : ∀ l ∈ e.signature, Apart (qualify space metric.name, Facade.shapeOf metric) l) :
    e.refusal? (qualify space metric.name) (Facade.shapeOf metric) metric.labels = none := by
  have hreserved : (reserved (Facade.shapeOf metric) (qualify space metric.name)).filter
      e.allReserved.contains = [] := by
    refine List.filter_eq_nil_iff.mpr fun name hname hcontains => ?_
    rw [List.contains_iff_mem, allReserved_eq] at hcontains
    obtain ⟨l, hl, hother⟩ := List.mem_flatMap.mp hcontains
    exact hapart l hl name hname hother
  have hne := Catalogue.qualify_ne_empty hmetric space
  unfold refusal?
  rw [if_neg hne, Catalogue.labelRefusal?_eq_none metric hmetric, stem_qualify hmetric]
  dsimp only
  rw [if_neg hne, hreserved]

/-- **A metric is registered** that shares no name with what is there. -/
theorem register_of_apart (hmetric : metric ∈ Catalogue.all)
    (hnew : qualify space metric.name ∉ e.claimed)
    (hapart : ∀ l ∈ e.signature, Apart (qualify space metric.name, Facade.shapeOf metric) l) :
    e.register (qualify space metric.name) metric.description (Facade.shapeOf metric) metric.labels
      = (.ok (), enter { e with claimed := e.claimed ++ [qualify space metric.name] }
          (qualify space metric.name) metric.description (Facade.shapeOf metric) metric.labels) := by
  have hrefusal := refusal?_of_apart
    (e := { e with claimed := e.claimed ++ [qualify space metric.name] }) hmetric hapart
  unfold register
  rw [if_neg fun hcontains => hnew (List.contains_iff_mem.mp hcontains)]
  dsimp only
  rw [hrefusal]

end Exposition

namespace Store

/-- A metric in a namespace. -/
abbrev Listing := Option String × Metric

/-- **The metrics that a store has families of**, with their namespaces. -/
def Lists (listings : List Listing) : Store → Prop
  | .memory m => m.names = listings.map fun l => qualify l.1 l.2.name
  | .exposition e => e.claimed = listings.map (fun l => qualify l.1 l.2.name)
    ∧ e.signature = listings.map fun l => (qualify l.1 l.2.name, Facade.shapeOf l.2)
  | .recorder _ | .pipeline _ => False

variable {s s' : Store} {listings : List Listing} {space space' : Option String}
  {metric metric' : Metric}

theorem Lists.isReadable (h : s.Lists listings) : s.IsReadable := by
  cases s with
  | memory m => trivial
  | exposition e => trivial
  | recorder m => exact h
  | pipeline m => exact h

/-- Touching a family registers nothing. -/
theorem Lists.touch {name : String} (h : s.Lists listings) (htouches : s.Touches name s') :
    s'.Lists listings := by
  cases htouches with
  | memory change hkeeps => exact (Table.keys_adjust ..).trans h
  | exposition change hkeeps => exact ⟨h.1, (Exposition.signature_adjust _ _ hkeeps).trans h.2⟩

/-- **Who reads another metric reads the same.** The other one may be another metric or the
same in another namespace. Either way the names differ, which is enough in memory, and no
name that is reserved is shared, which is needed on a registry. -/
theorem Lists.sameReadings (h : s.Lists listings) (hall : ∀ l ∈ listings, l.2 ∈ Catalogue.all)
    (hmetric : metric ∈ Catalogue.all) (hmetric' : metric' ∈ Catalogue.all)
    (hne : (space, metric) ≠ (space', metric'))
    (htouches : s.Touches (qualify space metric.name) s') :
    s.SameReadings (Facade.shapeOf metric') (qualify space' metric'.name) s' := by
  have hname : qualify space' metric'.name ≠ qualify space metric.name := by
    intro heq
    obtain ⟨rfl, rfl⟩ := eq_of_qualify_eq_qualify hmetric' hmetric heq
    exact hne rfl
  cases htouches with
  | @memory m change hkeeps =>
    have hfamily : (m.families.adjust (qualify space metric.name) change).get?
        (qualify space' metric'.name) = m.families.get? (qualify space' metric'.name) := by
      rw [Table.get?_adjust, if_neg hname]
    refine ⟨?_, fun given => ⟨?_, ?_⟩⟩
    · unfold Memory.series Memory.family
      rw [hfamily]
    · rw [Memory.value_eq, Memory.value_eq, hfamily]
    · rw [Memory.histogram_eq, Memory.histogram_eq, hfamily]
  | @exposition e change hkeeps =>
    refine ⟨fun sample hsample given => Exposition.sample?_adjust hkeeps ?_ given, ?_⟩
    · intro family hmem
      have hsignature : (qualify space metric.name, family.shape) ∈ e.signature :=
        List.mem_map.mpr ⟨_, hmem, rfl⟩
      rw [h.2] at hsignature
      obtain ⟨l, hl, heq⟩ := List.mem_map.mp hsignature
      obtain ⟨hsame, hshape⟩ := Prod.mk.inj heq
      obtain ⟨-, rfl⟩ := eq_of_qualify_eq_qualify (hall l hl) hmetric hsame
      rw [← hshape]
      exact (Exposition.apart_qualify hmetric hmetric' hne).symm sample hsample
    · rw [Table.get?_adjust, if_neg hname]

/-- **A metric that is not listed can be registered**, and is listed then. What is listed
are metrics of the catalogue, so the name is free and no name it reserves is taken. -/
theorem Lists.register (h : s.Lists listings) (hall : ∀ l ∈ listings, l.2 ∈ Catalogue.all)
    (hmetric : metric ∈ Catalogue.all) (hnew : (space, metric) ∉ listings) :
    ∃ s', s.register (qualify space metric.name) metric.description (Facade.shapeOf metric)
        metric.labels = (.ok (), s')
      ∧ s'.Lists (listings ++ [(space, metric)]) := by
  have hfree : qualify space metric.name ∉ listings.map fun l => qualify l.1 l.2.name := by
    intro hmem
    obtain ⟨l, hl, heq⟩ := List.mem_map.mp hmem
    obtain ⟨rfl, rfl⟩ := eq_of_qualify_eq_qualify (hall l hl) hmetric heq
    exact hnew hl
  cases s with
  | memory m =>
    refine ⟨_, Facade.register_of hmetric (h ▸ hfree), ?_⟩
    show (m.families.push _ _).keys = _
    rw [Table.keys_push, List.map_append]
    exact congrArg (· ++ _) h
  | exposition e =>
    obtain ⟨hclaimed, hsignature⟩ := h
    have hapart : ∀ l ∈ e.signature, Exposition.Apart
        (qualify space metric.name, Facade.shapeOf metric) l := by
      rw [hsignature]
      rintro _ hmem
      obtain ⟨l, hl, rfl⟩ := List.mem_map.mp hmem
      exact Exposition.apart_qualify hmetric (hall l hl) fun heq => hnew (heq ▸ hl)
    have hregister := Exposition.register_of_apart hmetric (hclaimed ▸ hfree) hapart
    refine ⟨.exposition (Exposition.enter
      { e with claimed := e.claimed ++ [qualify space metric.name] } (qualify space metric.name)
      metric.description (Facade.shapeOf metric) metric.labels), ?_, ?_⟩
    · rw [Facade.register_eq_enter _ _ hmetric]
      exact congrArg (put .exposition) hregister
    · refine And.intro ?_ ?_
      · show e.claimed ++ _ = _
        rw [hclaimed, List.map_append]
        rfl
      · rw [Exposition.signature_enter, List.map_append]
        exact congrArg (· ++ _) hsignature
  | recorder m => exact h.elim
  | pipeline m => exact h.elim

end Store

end QuicTelemetry
