import QuicTelemetry.Proofs.Facade.Answering
import QuicTelemetry.Proofs.Facade.Switching
import QuicTelemetry.Proofs.Store.Frames

/-!
# Facades that share a store

A *shared store* is a store with any number of facades that were built on it, each in a
session of its own with the handles that it gave out. Facades are built, callers do
something in one of the sessions, and the store is collected, in any order
(`SharedStore.Step`).

What is done in a session resolves series of the facade's own metrics and operates on
their handles, and does nothing else to the store. So **what those two leave alone
is left alone by everything that is done in the session** (`FacadeSession.Works.attempt`,
`SharedStore.work_keeps`), whichever kind the store is of.
-/

namespace QuicTelemetry

/-! ## What a facade leaves alone -/

namespace Facade

/-- **A property of stores that a facade keeps**: to resolve series of its metrics
and to operate on them does not change it. -/
structure Keeps (flags : Flags) (space : Option String) (P : Store → Prop) : Prop where
  /-- Resolving keeps it. -/
  resolve : ∀ metric ∈ Catalogue.permitted flags, ∀ s given, P s →
    P (s.resolve (qualify space metric.name) given).2
  /-- Operating keeps it. -/
  call : ∀ metric ∈ Catalogue.permitted flags, ∀ s id verb args,
    id.family = qualify space metric.name → P s → P (s.call id verb args).2

variable {flags : Flags} {space : Option String} {P : Store → Prop}

/-- Resolving the series without labels keeps it. -/
theorem Keeps.resolveAll (h : Keeps flags space P) {metrics : List Metric}
    (hmetrics : ∀ metric ∈ metrics, metric ∈ Catalogue.permitted flags) {s : Store} (hs : P s) :
    P (resolveAll space s metrics).2 := by
  induction metrics generalizing s with
  | nil => exact hs
  | cons metric rest ih =>
    have hresolved := h.resolve metric (hmetrics metric List.mem_cons_self) s [] hs
    unfold Facade.resolveAll
    split
    · next heq =>
      rw [heq] at hresolved
      exact hresolved
    · next heq =>
      rw [heq] at hresolved
      exact ih (fun metric hmem => hmetrics metric (List.mem_cons_of_mem _ hmem)) hresolved

/-- Series without labels are resolved where the families have no labels. -/
theorem resolveAll_ok {metrics : List Metric} {s : Store}
    (hlabels : ∀ metric ∈ metrics, s.labels? (qualify space metric.name) = some []) :
    (resolveAll space s metrics).1 = .ok () := by
  induction metrics generalizing s with
  | nil => rfl
  | cons metric rest ih =>
    have hresolve : (s.resolve (qualify space metric.name) []).1
        = .ok ⟨qualify space metric.name, []⟩ :=
      Store.resolve_of_labels? (hlabels metric List.mem_cons_self) List.nodup_nil
        (fun _ _ => List.not_mem_nil) rfl
    have hsame := s.sameFamilies_resolve (qualify space metric.name) []
    unfold Facade.resolveAll
    split
    · next heq =>
      rw [heq] at hresolve
      cases hresolve
    · next heq =>
      rw [heq] at hsame
      exact ih fun metric hmem =>
        (hsame.labels _).trans (hlabels metric (List.mem_cons_of_mem _ hmem))

/-- **A facade is built if its metrics are registered**: nothing fails after
that. -/
theorem build_of_registerAll {space : Value} {s s' : Store} (htidy : s.Tidy)
    (hregister : registerAll space.space? s (Catalogue.permitted flags) = (.ok (), s'))
    (logging : Logging) (stamp : String) (logger : Logger) :
    ∃ records, build s flags space logging stamp logger
      = (.ok (⟨flags, space.space?, Catalogue.permitted flags, logger, 0, 0⟩, records),
        (resolveAll space.space? s'
          (unlabelled.filter fun metric => flags.permits metric.flag)).2) := by
  obtain ⟨-, -, hlabels⟩ := labels_registerAll htidy hregister
  have hok : (resolveAll space.space? s'
      (unlabelled.filter fun metric => flags.permits metric.flag)).1 = .ok () := by
    refine resolveAll_ok fun metric hmem => ?_
    obtain ⟨hmetric, hnil⟩ := unlabelled_permitted flags metric hmem
    exact hnil ▸ hlabels metric hmetric
  unfold build
  dsimp only
  rw [hregister]
  dsimp only
  split
  · next heq =>
    rw [heq] at hok
    cases hok
  · next heq =>
    rw [heq]
    exact ⟨_, rfl⟩

/-- **A facade that was built** has its metrics registered. -/
theorem registerAll_of_build {space : Value} {s s' : Store} {logging : Logging} {stamp : String}
    {logger : Logger} {facade : Facade} {records : List LogRecord}
    (h : build s flags space logging stamp logger = (.ok (facade, records), s')) :
    facade.flags = flags ∧ facade.space = space.space?
      ∧ ∃ middle, registerAll space.space? s (Catalogue.permitted flags) = (.ok (), middle)
        ∧ s' = (resolveAll space.space? middle
          (unlabelled.filter fun metric => flags.permits metric.flag)).2 := by
  unfold build at h
  dsimp only at h
  split at h
  · cases h
  · next middle hregister =>
    split at h
    · cases h
    · next hresolve =>
      cases h
      exact ⟨rfl, rfl, middle, hregister, by rw [hresolve]⟩

/-- **Reporting an event** keeps what the facade keeps, and the handle is of a
metric that is on. -/
theorem Keeps.report {facade : Facade} (h : Keeps facade.flags facade.space P) {s : Store}
    (hs : P s) (logging : Logging) (stamp : String) (event : Event) :
    P (facade.report s logging stamp event).2.2
      ∧ ∀ response, (facade.report s logging stamp event).1 = .ok response →
        ∃ metric ∈ Catalogue.all, response.handle.Belongs facade.flags facade.space metric := by
  have hidle : ∃ metric ∈ Catalogue.all,
      (Handle.idle event.metric.kind).Belongs facade.flags facade.space metric :=
    ⟨event.metric, event.metric_mem_all, trivial⟩
  unfold Facade.report
  split
  · exact ⟨hs, fun _ hok => by cases hok⟩
  · split
    · exact ⟨hs, fun _ hok => by cases hok; exact hidle⟩
    · next hcovers =>
      have hon : facade.flags.permits event.metric.flag = true := by
        simpa [covers] using hcovers
      split
      · exact ⟨hs, fun _ hok => by cases hok; exact hidle⟩
      · next labels _ =>
        have hresolved := h.resolve event.metric (List.mem_filter.mpr ⟨event.metric_mem_all, hon⟩)
          s labels hs
        split
        · next heq =>
          rw [heq] at hresolved
          exact ⟨hresolved, fun _ hok => by cases hok⟩
        · next id store heq =>
          have hfamily : id.family = qualify facade.space event.metric.name :=
            Store.family_of_resolve (congrArg Prod.fst heq)
          rw [heq] at hresolved
          refine ⟨hresolved, fun _ hok => ?_⟩
          cases hok
          exact ⟨event.metric, event.metric_mem_all, hon, hfamily⟩

end Facade

/-- **Operating on a handle** of a metric that is on keeps what the facade
keeps. -/
theorem Facade.Keeps.handle {flags : Flags} {space : Option String} {P : Store → Prop}
    (h : Facade.Keeps flags space P) {handle : Handle} {metric : Metric}
    (hmetric : metric ∈ Catalogue.all) (hbelongs : handle.Belongs flags space metric) {s : Store}
    (hs : P s) (verb : Verb) (args : List Value) : P (handle.call s verb args).2 := by
  cases handle with
  | idle kind =>
    unfold Handle.call
    dsimp only
    split <;> exact hs
  | live id =>
    obtain ⟨hon, hfamily⟩ := hbelongs
    exact h.call metric (List.mem_filter.mpr ⟨hmetric, hon⟩) s id verb args hfamily hs

namespace FacadeSession

/-- **A session in which a facade works**: all its handles are of metrics that are
on. -/
structure Works (flags : Flags) (space : Option String) (session : FacadeSession) : Prop where
  /-- The flags of the facade. -/
  flags_eq : session.facade.flags = flags
  /-- The namespace of the facade. -/
  space_eq : session.facade.space = space
  /-- The handles that were given out. -/
  handles : ∀ entry ∈ session.handles, ∃ metric ∈ Catalogue.all, entry.2.Belongs flags space metric

/-- **An action** keeps what the facade keeps, and the session works as before. -/
theorem Works.attempt {flags : Flags} {space : Option String} {P : Store → Prop}
    {session : FacadeSession}
    (hworks : session.Works flags space) (hkeeps : Facade.Keeps flags space P) (h : P session.store)
    (logging : Logging) (caller : Nat) (action : FacadeAction) :
    (session.attempt logging caller action).2.Works flags space
      ∧ P (session.attempt logging caller action).2.store := by
  obtain ⟨rfl, rfl, hhandles⟩ := hworks
  cases action with
  | call made stamp =>
    unfold FacadeSession.attempt
    dsimp only
    split
    · exact ⟨⟨rfl, rfl, hhandles⟩, h⟩
    · next event _ =>
      obtain ⟨hP, hbelongs⟩ := hkeeps.report h logging stamp event
      obtain ⟨hflags, hspace, -⟩ :=
        session.facade.sameFamilies_report session.store logging stamp event
        .standard
      split
      · next response facade store heq =>
        rw [heq] at hP hbelongs hflags hspace
        refine ⟨⟨hflags, hspace, fun entry hentry => ?_⟩, hP⟩
        rcases List.mem_append.mp hentry with hentry | hentry
        · exact hhandles entry hentry
        · rw [List.mem_singleton.mp hentry]
          exact hbelongs response rfl
      · next heq =>
        rw [heq] at hP hflags hspace
        exact ⟨⟨hflags, hspace, hhandles⟩, hP⟩
  | operate place verb args =>
    unfold FacadeSession.attempt
    dsimp only
    split
    · exact ⟨⟨rfl, rfl, hhandles⟩, h⟩
    · next handle hfound =>
      obtain ⟨metric, hmetric, hbelongs⟩ :=
        hhandles _ (mem_of_mem_own (List.mem_of_getElem? hfound))
      exact ⟨⟨rfl, rfl, hhandles⟩, hkeeps.handle hmetric hbelongs h verb args⟩

end FacadeSession

/-! ## Shared stores -/

/-- **A store with sessions over it**: the facades that were built on it, and the
handles that each gave out. -/
structure SharedStore where
  /-- The store. -/
  store : Store
  /-- The facades with their handles, in the order in which they were built. -/
  sessions : List (Facade × List (Nat × Handle)) := []

/-- **What happens in a shared store.** -/
inductive SharedStore.Step where
  /-- A facade is built, in a namespace. -/
  | build (flags : Flags) (space : String)
  /-- A caller does something in a session. -/
  | action (session caller : Nat) (action : FacadeAction)
  /-- What was aggregated is collected. -/
  | collect

/-- The flags and the namespace of a facade. -/
abbrev SharedStore.Branch := Flags × Option String

/-- The facade that is to be built. -/
def SharedStore.Step.branch? : SharedStore.Step → Option SharedStore.Branch
  | .build flags space => some (flags, (Value.text space).space?)
  | _ => none

/-- The namespace in which a facade is to be built, which may be empty. -/
def SharedStore.Step.space? : SharedStore.Step → Option String
  | .build _ space => some space
  | _ => none

namespace SharedStore

/-- The facades of a shared store, by their flags and namespaces. -/
def branches (shared : SharedStore) : List Branch :=
  shared.sessions.map fun session => (session.1.flags, session.1.space)

/-- The metrics that facades have switched on, with their namespaces. -/
def listings (branches : List Branch) : List Store.Listing :=
  branches.flatMap fun branch =>
    (Catalogue.permitted branch.1).map fun metric => (branch.2, metric)

/-- A session over the shared store. -/
def session? (shared : SharedStore) (i : Nat) : Option FacadeSession :=
  shared.sessions[i]?.map fun session => ⟨session.1, shared.store, session.2⟩

/-- The shared store with a session as it is now. -/
def put (shared : SharedStore) (i : Nat) (session : FacadeSession) : SharedStore :=
  ⟨session.store, shared.sessions.set i (session.facade, session.handles)⟩

/-- A caller does something in a session. -/
def attempt (logging : Logging) (shared : SharedStore) (i caller : Nat)
    (action : FacadeAction) : SharedStore :=
  match shared.session? i with
  | some session => shared.put i (session.attempt logging caller action).2
  | none => shared

/-- **Takes a step**, whether it succeeds or not. Where a facade cannot be built,
there is no session. -/
def take (logging : Logging) (stamp : String) (logger : Logger)
    (shared : SharedStore) : Step → SharedStore
  | .build flags space =>
    match Facade.build shared.store flags (.text space) logging stamp logger with
    | (.ok (facade, _), store) => ⟨store, shared.sessions ++ [(facade, [])]⟩
    | (.error _, store) => { shared with store }
  | .action i caller action => shared.attempt logging i caller action
  | .collect => { shared with store := shared.store.collect.2 }

/-- Takes steps. -/
def takeAll (logging : Logging) (stamp : String) (logger : Logger) (shared : SharedStore)
    (steps : List Step) : SharedStore :=
  steps.foldl (take logging stamp logger) shared

/-- Callers do something in one session. -/
def work (logging : Logging) (shared : SharedStore) (i : Nat) (history : History) : SharedStore :=
  history.foldl (fun shared action => shared.attempt logging i action.1 action.2) shared

/-- A facade that was built has a session. -/
theorem take_build_of_eq (shared : SharedStore) {flags : Flags} {space : String}
    {logging : Logging} {stamp : String}
    {logger : Logger} {facade : Facade} {records : List LogRecord} {s : Store}
    (h : Facade.build shared.store flags (.text space) logging stamp logger
      = (.ok (facade, records), s)) :
    shared.take logging stamp logger (.build flags space)
      = ⟨s, shared.sessions ++ [(facade, [])]⟩ := by
  unfold take
  dsimp only
  rw [h]

variable {shared : SharedStore}

theorem mem_listings {branches : List Branch} {l : Store.Listing} (h : l ∈ listings branches) :
    l.2 ∈ Catalogue.all ∧ ∃ branch ∈ branches, branch.2 = l.1 := by
  obtain ⟨branch, hbranch, hl⟩ := List.mem_flatMap.mp h
  obtain ⟨metric, hmetric, rfl⟩ := List.mem_map.mp hl
  exact ⟨Catalogue.mem_all_of_mem_permitted hmetric, branch, hbranch, rfl⟩

theorem session?_eq_some_iff {i : Nat} {session : FacadeSession} :
    shared.session? i = some session
      ↔ shared.sessions[i]? = some (session.facade, session.handles)
        ∧ session.store = shared.store := by
  unfold session?
  rw [Option.map_eq_some_iff]
  constructor
  · rintro ⟨entry, hentry, rfl⟩
    exact ⟨hentry, rfl⟩
  · rintro ⟨hentry, hstore⟩
    exact ⟨_, hentry, by rw [← hstore]⟩

theorem session?_of_sessions_eq {sessions : List (Facade × List (Nat × Handle))}
    (h : shared.sessions = sessions)
    {i : Nat} {session : Facade × List (Nat × Handle)} (hi : sessions[i]? = some session) :
    shared.session? i = some ⟨session.1, shared.store, session.2⟩ :=
  session?_eq_some_iff.mpr ⟨h ▸ hi, rfl⟩

/-- A session that was put is there. -/
theorem session?_put {i : Nat} {session : FacadeSession} (h : shared.session? i = some session)
    (session' : FacadeSession) :
    (shared.put i session').session? i = some session' := by
  have hlt := (List.getElem?_eq_some_iff.mp (session?_eq_some_iff.mp h).1).1
  exact session?_eq_some_iff.mpr ⟨List.getElem?_set_self hlt, rfl⟩

/-- **What is done in a session** keeps what its facade keeps. -/
theorem work_keeps {flags : Flags} {space : Option String} {P : Store → Prop} {i : Nat}
    {session : FacadeSession}
    (hsession : shared.session? i = some session) (hworks : session.Works flags space)
    (hkeeps : Facade.Keeps flags space P) (h : P shared.store) (logging : Logging)
    (history : History) : P (shared.work logging i history).store := by
  induction history generalizing shared session with
  | nil => exact h
  | cons entry history ih =>
    have hstore : session.store = shared.store := (session?_eq_some_iff.mp hsession).2
    obtain ⟨hworks', hP⟩ := hworks.attempt hkeeps (hstore ▸ h) logging entry.1 entry.2
    have hattempt : shared.attempt logging i entry.1 entry.2
        = shared.put i (session.attempt logging entry.1 entry.2).2 := by
      unfold attempt
      rw [hsession]
    show P ((shared.attempt logging i entry.1 entry.2).work logging i history).store
    rw [hattempt]
    exact ih (session?_put hsession _) hworks' hP

/-! ## Whose handles they are -/

/-- **The handles that were given out in a session** are of its facade. -/
def HasOwnHandles (shared : SharedStore) : Prop :=
  ∀ session ∈ shared.sessions, ∀ entry ∈ session.2, ∃ metric ∈ Catalogue.all,
    entry.2.Belongs session.1.flags session.1.space metric

/-- In every session its facade works. -/
theorem HasOwnHandles.works (h : shared.HasOwnHandles) {i : Nat} {session : FacadeSession}
    (hsession : shared.session? i = some session) :
    session.Works session.facade.flags session.facade.space :=
  ⟨rfl, rfl, h _ (List.mem_of_getElem? (session?_eq_some_iff.mp hsession).1)⟩

/-- A facade that comes new has given out nothing. -/
theorem HasOwnHandles.built (h : shared.HasOwnHandles) (store : Store) (facade : Facade) :
    HasOwnHandles ⟨store, shared.sessions ++ [(facade, [])]⟩ :=
  List.forall_mem_append.mpr ⟨h, List.forall_mem_singleton.mpr fun _ hentry =>
    absurd hentry List.not_mem_nil⟩

/-- **Something is done in a session**, where every facade keeps a property of the
store. The facades stay the same. -/
theorem HasOwnHandles.attempt (h : shared.HasOwnHandles) {P : Store → Prop}
    (hkeeps : ∀ branch ∈ shared.branches, Facade.Keeps branch.1 branch.2 P)
    (hstore : P shared.store)
    (logging : Logging) (i caller : Nat) (action : FacadeAction) :
    (shared.attempt logging i caller action).HasOwnHandles
      ∧ (shared.attempt logging i caller action).branches = shared.branches
      ∧ P (shared.attempt logging i caller action).store := by
  unfold SharedStore.attempt
  split
  · next session hsession =>
    obtain ⟨hentry, hsame⟩ := session?_eq_some_iff.mp hsession
    have hbranch : (session.facade.flags, session.facade.space) ∈ shared.branches :=
      List.mem_map.mpr ⟨_, List.mem_of_getElem? hentry, rfl⟩
    obtain ⟨⟨hflags, hspace, hhandles⟩, hP⟩ :=
      (h.works hsession).attempt (hkeeps _ hbranch) (hsame ▸ hstore) logging caller action
    generalize (session.attempt logging caller action).2 = session' at hflags hspace hhandles hP
    refine ⟨fun other hother => ?_, map_set_of_eq hentry (by rw [hflags, hspace]), hP⟩
    rcases List.mem_or_eq_of_mem_set hother with hother | rfl
    · exact h other hother
    · rw [hflags, hspace]
      exact hhandles
  · exact ⟨h, rfl, hstore⟩

end SharedStore

end QuicTelemetry
