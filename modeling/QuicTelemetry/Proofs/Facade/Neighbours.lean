import QuicTelemetry.Proofs.Facade.SharedStore

/-!
# Neighbours in namespaces

Facades in different namespaces share a store in memory, or a registry, as if each
had one of its own. The metrics of the store are the ones that the facades have
switched on, each in its namespace (`SharedStore.Sound`), and no two of them share a
name, so a facade can always be built beside the others
(`SharedStore.Sound.take_build`); and what is done in one session touches the families of
its own metrics only, so nobody else can read that anything was done
(`SharedStore.neighbours_apart`).
-/

namespace QuicTelemetry

namespace Store

variable {s s' s'' : Store} {shape : Shape} {name : String}

theorem SameReadings.refl (h : s.IsReadable) (shape : Shape) (name : String) :
    s.SameReadings shape name s := by
  cases s with
  | memory m => exact ⟨rfl, fun _ => ⟨rfl, rfl⟩⟩
  | exposition e => exact ⟨fun _ _ _ => rfl, rfl⟩
  | recorder m => exact h
  | pipeline m => exact h

theorem SameReadings.trans (h : s.SameReadings shape name s')
    (h' : s'.SameReadings shape name s'') : s.SameReadings shape name s'' := by
  cases s <;> cases s' <;> cases s'' <;> first | exact False.elim h | exact False.elim h' | skip
  · exact ⟨h'.1.trans h.1, fun given =>
      ⟨(h'.2 given).1.trans (h.2 given).1, (h'.2 given).2.trans (h.2 given).2⟩⟩
  · exact ⟨fun sample hsample given => (h'.1 sample hsample given).trans (h.1 sample hsample given),
      h'.2.trans h.2⟩

/-- In a store that can be read back, free names have no families. -/
theorem IsReadable.tidy (h : s.IsReadable) : s.Tidy := by
  cases s with
  | memory m =>
    refine .inr fun name hname => ?_
    show (m.families.get? name).map Family.labels = none
    rw [Option.map_eq_none_iff, Option.eq_none_iff_forall_ne_some]
    intro family hfamily
    exact hname (List.mem_map.mpr ⟨_, Table.mem_entries_of_get? hfamily, rfl⟩)
  | exposition e => exact .inl rfl
  | recorder m => exact h.elim
  | pipeline m => exact h.elim

/-- **Metrics in a namespace that has none yet** can all be registered. -/
theorem Lists.registerAll {listings : List Listing} (h : s.Lists listings) (space : Option String)
    (metrics : List Metric) (hall : ∀ l ∈ listings, l.2 ∈ Catalogue.all)
    (hmetrics : ∀ metric ∈ metrics, metric ∈ Catalogue.all)
    (hnew : ∀ metric ∈ metrics, (space, metric) ∉ listings) (hnodup : metrics.Nodup) :
    ∃ s', Facade.registerAll space s metrics = (.ok (), s')
      ∧ s'.Lists (listings ++ metrics.map fun metric => (space, metric)) := by
  induction metrics generalizing s listings with
  | nil => exact ⟨s, rfl, by simpa using h⟩
  | cons metric rest ih =>
    obtain ⟨hmetric, hrest⟩ := List.forall_mem_cons.mp hmetrics
    obtain ⟨hnew, hnews⟩ := List.forall_mem_cons.mp hnew
    obtain ⟨hnotin, hnodup⟩ := List.nodup_cons.mp hnodup
    obtain ⟨s', hregister, hlists⟩ := h.register hall hmetric hnew
    obtain ⟨s'', hregisterAll, hlists'⟩ := ih hlists
      (List.forall_mem_append.mpr ⟨hall, List.forall_mem_singleton.mpr hmetric⟩) hrest
      (fun other hother hmem => by
        rcases List.mem_append.mp hmem with hmem | hmem
        · exact hnews other hother hmem
        · obtain ⟨-, rfl⟩ := Prod.mk.inj (List.mem_singleton.mp hmem)
          exact hnotin hother) hnodup
    refine ⟨s'', ?_, by simpa using hlists'⟩
    unfold Facade.registerAll
    rw [hregister]
    exact hregisterAll

end Store

namespace Facade

variable {flags : Flags} {space : Option String} {listings : List Store.Listing}

/-- **What is registered** stays as it is. -/
theorem keeps_lists (flags : Flags) (space : Option String) (listings : List Store.Listing) :
    Keeps flags space fun s => s.Lists listings where
  resolve _ _ _ given h := h.touch (Store.touches_resolve h.isReadable _ given)
  call _ _ _ id verb args _ h := h.touch (Store.touches_call h.isReadable id verb args)

/-- **What is read of a metric in another namespace** stays as it is. -/
theorem keeps_sameReadings (flags : Flags) {space space' : Option String} (hspace : space ≠ space')
    (hall : ∀ l ∈ listings, l.2 ∈ Catalogue.all) {metric' : Metric}
    (hmetric' : metric' ∈ Catalogue.all) (s₀ : Store) :
    Keeps flags space fun s => s.Lists listings
      ∧ s₀.SameReadings (shapeOf metric') (qualify space' metric'.name) s := by
  have hstep {metric : Metric} (hmetric : metric ∈ Catalogue.permitted flags) {s s' : Store}
      (h : s.Lists listings ∧ s₀.SameReadings (shapeOf metric') (qualify space' metric'.name) s)
      (htouches : s.Touches (qualify space metric.name) s') :
      s'.Lists listings ∧ s₀.SameReadings (shapeOf metric') (qualify space' metric'.name) s' :=
    ⟨h.1.touch htouches, h.2.trans (h.1.sameReadings hall
      (Catalogue.mem_all_of_mem_permitted hmetric) hmetric'
      (fun heq => hspace (Prod.mk.inj heq).1) htouches)⟩
  constructor
  · intro metric hmetric s given h
    exact hstep hmetric h (Store.touches_resolve h.1.isReadable _ given)
  · intro metric hmetric s id verb args hfamily h
    exact hstep hmetric h (hfamily ▸ Store.touches_call h.1.isReadable id verb args)

end Facade

namespace SharedStore

/-- **A shared store in which facades were built**, with these flags and in these
namespaces. -/
structure Sound (branches : List Branch) (shared : SharedStore) : Prop where
  /-- The metrics of the store are those of the facades. -/
  lists : shared.store.Lists (listings branches)
  /-- Each facade has its session. -/
  branches_eq : shared.branches = branches
  /-- The handles are of the facades. -/
  handles : shared.HasOwnHandles

variable {shared : SharedStore} {branches : List Branch}

/-- No two facades are in one namespace. -/
theorem Sound.eq_of_space_eq (h : shared.Sound branches) (hdistinct : (branches.map Prod.snd).Nodup)
    {i j : Nat} {session other : FacadeSession} (hsession : shared.session? i = some session)
    (hother : shared.session? j = some other) (heq : session.facade.space = other.facade.space) :
    i = j := by
  have hspaces : shared.sessions.map (fun session => session.1.space) = branches.map Prod.snd := by
    rw [← h.branches_eq]
    unfold SharedStore.branches
    rw [List.map_map]
    rfl
  have hentry := (session?_eq_some_iff.mp hsession).1
  have hentry' := (session?_eq_some_iff.mp hother).1
  refine (List.getElem?_inj ?_ (hspaces ▸ hdistinct)).mp ?_
  · rw [List.length_map]
    exact (List.getElem?_eq_some_iff.mp hentry).1
  · rw [List.getElem?_map, List.getElem?_map, hentry, hentry']
    exact congrArg some heq

/-- **Something is done in a session.** -/
theorem Sound.attempt (h : shared.Sound branches) (logging : Logging) (i caller : Nat)
    (action : FacadeAction) : (shared.attempt logging i caller action).Sound branches := by
  obtain ⟨hstaffed, hbranches, hlists⟩ := h.handles.attempt
    (fun branch _ => Facade.keeps_lists branch.1 branch.2 (listings branches)) h.lists logging i
    caller action
  exact ⟨hlists, hbranches.trans h.branches_eq, hstaffed⟩

/-- **A facade is built** beside those in other namespaces. -/
theorem Sound.take_build (h : shared.Sound branches) {flags : Flags} {space : String}
    (hnew : (Value.text space).space? ∉ branches.map Prod.snd) (logging : Logging) (stamp : String)
    (logger : Logger) :
    (shared.take logging stamp logger (.build flags space)).Sound
      (branches ++ [(flags, (Value.text space).space?)]) := by
  obtain ⟨s', hregister, hlists⟩ := h.lists.registerAll (Value.text space).space?
    (Catalogue.permitted flags) (fun _ hl => (mem_listings hl).1)
    (fun _ => Catalogue.mem_all_of_mem_permitted)
    (fun metric _ hmem => hnew (List.mem_map.mpr (mem_listings hmem).2))
    ((Facade.nodup_permitted flags none).of_map _)
  obtain ⟨records, hbuild⟩ := Facade.build_of_registerAll h.lists.isReadable.tidy hregister logging
    stamp logger
  have hresolved := (Facade.keeps_lists flags (Value.text space).space? _).resolveAll
    (fun metric hmetric => (Facade.unlabelled_permitted flags metric hmetric).1) hlists
  rw [take_build_of_eq shared hbuild]
  refine ⟨?_, ?_, h.handles.built _ _⟩
  · unfold listings
    rw [List.flatMap_append, List.flatMap_singleton]
    exact hresolved
  · show List.map _ (_ ++ [_]) = _
    rw [List.map_append]
    exact congrArg (· ++ _) h.branches_eq

/-- There is nothing to collect. -/
theorem Sound.collect (h : shared.Sound branches) :
    Sound branches { shared with store := shared.store.collect.2 } := by
  obtain ⟨store, sessions⟩ := shared
  refine ⟨?_, h.branches_eq, h.handles⟩
  cases store with
  | memory m => exact h.lists
  | exposition e => exact h.lists
  | recorder m => exact h.lists.elim
  | pipeline m => exact h.lists.elim

/-- **Any steps** of a shared store leave it as it is to be, if no two facades are
built in one namespace. -/
theorem Sound.takeAll (h : shared.Sound branches) (logging : Logging) (stamp : String)
    (logger : Logger) {steps : List Step}
    (hdistinct : ((branches ++ steps.filterMap Step.branch?).map Prod.snd).Nodup) :
    (shared.takeAll logging stamp logger steps).Sound
      (branches ++ steps.filterMap Step.branch?) := by
  induction steps generalizing shared branches with
  | nil =>
    rw [List.filterMap_nil, List.append_nil]
    exact h
  | cons step steps ih =>
    cases step with
    | build flags space =>
      have hbranches : branches ++ (Step.build flags space :: steps).filterMap Step.branch?
          = branches ++ [(flags, (Value.text space).space?)] ++ steps.filterMap Step.branch? := by
        simp [Step.branch?]
      rw [hbranches] at hdistinct ⊢
      refine ih (h.take_build ?_ logging stamp logger) hdistinct
      rw [List.append_assoc, List.map_append] at hdistinct
      exact fun hmem => List.disjoint_of_nodup_append hdistinct hmem List.mem_cons_self
    | action i caller action => exact ih (h.attempt logging i caller action) hdistinct
    | collect => exact ih h.collect hdistinct

/-- Different texts are different namespaces. -/
theorem nodup_space?_branch? {steps : List Step} (h : (steps.filterMap Step.space?).Nodup) :
    ((steps.filterMap Step.branch?).map Prod.snd).Nodup := by
  have hspaces : (steps.filterMap Step.branch?).map Prod.snd
      = (steps.filterMap Step.space?).map fun space => (Value.text space).space? := by
    rw [List.map_filterMap, List.map_filterMap]
    exact congrArg (List.filterMap · steps) (funext fun step => by cases step <;> rfl)
  rw [hspaces]
  exact h.map fun _ _ => Value.space?_text_inj

/-- **Facades in different namespaces share a store** in memory or on a registry
without noticing each other. Whatever happens, each of them can be built, and no
session is missing; and whatever is done in one session, every metric that is read in the
namespace of another reads the same. -/
theorem neighbours_apart {store : Store} (hstore : store = .ofMemory ∨ store = .ofExposition)
    (logging : Logging) (stamp : String) (logger : Logger) (steps : List Step)
    (hdistinct : (steps.filterMap Step.space?).Nodup) :
    let shared := takeAll logging stamp logger { store } steps
    shared.branches = steps.filterMap Step.branch?
      ∧ ∀ i j session other, i ≠ j → shared.session? i = some session →
        shared.session? j = some other →
        ∀ history, ∀ metric ∈ Catalogue.all,
          shared.store.SameReadings (Facade.shapeOf metric) (qualify other.facade.space metric.name)
            (shared.work logging i history).store := by
  intro shared
  have hspaces := nodup_space?_branch? hdistinct
  have hlists : store.Lists (listings []) := by
    rcases hstore with rfl | rfl
    · rfl
    · exact ⟨rfl, rfl⟩
  have hnew : Sound [] { store } :=
    ⟨hlists, rfl, fun _ hsession => absurd hsession List.not_mem_nil⟩
  have hsound : shared.Sound (steps.filterMap Step.branch?) :=
    hnew.takeAll logging stamp logger hspaces
  refine ⟨hsound.branches_eq,
    fun i j session other hne hsession hother history metric hmetric => ?_⟩
  have hspace : session.facade.space ≠ other.facade.space := fun heq =>
    hne (hsound.eq_of_space_eq hspaces hsession hother heq)
  have hall : ∀ l ∈ listings (steps.filterMap Step.branch?), l.2 ∈ Catalogue.all :=
    fun _ hl => (mem_listings hl).1
  have hkeeps := Facade.keeps_sameReadings session.facade.flags hspace hall hmetric shared.store
  exact (work_keeps hsession (hsound.handles.works hsession) hkeeps
    ⟨hsound.lists, .refl hsound.lists.isReadable _ _⟩ logging history).2

/-- Two facades on one registry, one of them without a namespace. Datagrams that the
first one drops are not counted for the second. -/
theorem neighbours_apart_registry :
    let logger : Logger := ⟨Facade.loggerName, true, .empty⟩
    let steps : List Step := [.build .on "", .build .on "edge",
      .action 1 0 (.call ⟨"udp_drop_count", []⟩ ""), .action 1 0 (.operate 0 .inc [.int 2])]
    let shared := takeAll {} "" logger { store := .ofExposition } steps
    shared.branches = [(.on, none), (.on, some "edge")]
      ∧ ∃ session other, shared.session? 0 = some session ∧ shared.session? 1 = some other
        ∧ shared.store.SameReadings (Facade.shapeOf Catalogue.udpDropCount)
          (qualify other.facade.space Catalogue.udpDropCount.name)
          (shared.work {} 0
            [(0, .call ⟨"udp_drop_count", []⟩ ""), (0, .operate 0 .inc [.int 1])]).store := by
  intro logger steps
  obtain ⟨shared, hshared⟩ :
      ∃ shared, shared = takeAll {} "" logger { store := .ofExposition } steps :=
    ⟨_, rfl⟩
  have hneighbours := neighbours_apart (.inr rfl) {} "" logger steps (by decide)
  rw [← hshared] at hneighbours ⊢
  obtain ⟨hsessions, hapart⟩ := hneighbours
  have hbranches : shared.branches = [(.on, none), (.on, some "edge")] :=
    hsessions.trans (by simp [steps, Step.branch?, Value.space?, Value.truthy, Value.toText])
  obtain ⟨first, rest, hfirst, -, hrest⟩ := List.map_eq_cons_iff.mp hbranches
  obtain ⟨second, rest, rfl, -, hrest⟩ := List.map_eq_cons_iff.mp hrest
  have hsession := session?_of_sessions_eq hfirst (i := 0) rfl
  have hother := session?_of_sessions_eq hfirst (i := 1) rfl
  refine ⟨hbranches, _, _, hsession, hother, ?_⟩
  exact hapart 0 1 _ _ Nat.zero_ne_one hsession hother _ Catalogue.udpDropCount
    Event.datagramDrop.metric_mem_all

end SharedStore

end QuicTelemetry
