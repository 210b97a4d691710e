import QuicTelemetry.Proofs.Facade.Build

/-!
# A facade aggregates what is reported to it

Whatever callers do with a facade over a memory store, the store shows for every
series what the ledger says. The proof follows the actions: `FacadeSession.Follows`
relates a session to a ledger, **one action keeps it** (`FacadeSession.Follows.call`,
`FacadeSession.Follows.operate`), and so a whole history does
(`FacadeSession.Follows.run`).

A call is the delicate action. The facade may answer it with a handle that does
nothing, and it has to do so exactly if the call belongs to no series.
-/

namespace QuicTelemetry

/-! ## Actions -/

theorem Mutation.exists_of_of? {verb : Verb} {args : List Value} {u : Mutation}
    (h : of? verb args = some u) : ∃ argument, verb.argument args = .ok argument
      ∧ u = ⟨verb, argument⟩ := by
  unfold of? at h
  cases hargument : verb.argument args with
  | error fault =>
    rw [hargument] at h
    cases h
  | ok argument =>
    rw [hargument] at h
    exact ⟨argument, rfl, (Option.some.inj h).symm⟩

/-- An accepted operation is a mutation that the handle of a call takes. -/
theorem FacadeAction.exists_of_isAccepted {flags : Flags} {space : Option String}
    {calls : List Call}
    {handle : Nat} {verb : Verb} {args : List Value}
    (h : (operate handle verb args).isAccepted flags space calls = true) :
    ∃ made u, calls[handle]? = some made ∧ Mutation.of? verb args = some u
      ∧ made.takes flags space u = true := by
  unfold isAccepted at h
  dsimp only at h
  split at h
  · next made u hmade hu => exact ⟨made, u, hmade, hu, h⟩
  · exact absurd h Bool.false_ne_true

/-- The handle that a call is answered with. -/
def Call.handle (flags : Flags) (space : Option String) (call : Call) : Handle :=
  match call.series? flags space with
  | some id => .live id
  | none => .idle ((call.metric?.map Metric.kind).getD .counter)

namespace Call

theorem exists_event {call : Call} (h : call.isAccepted = true) :
    ∃ event, Event.ofCall call.method call.args = .ok event
      ∧ Facade.misfit? event.sources = none := by
  unfold isAccepted at h
  split at h
  · next event hevent => exact ⟨event, hevent, Option.isNone_iff_eq_none.mp h⟩
  · exact absurd h Bool.false_ne_true

theorem metric?_of_event {call : Call} {event : Event}
    (h : Event.ofCall call.method call.args = .ok event) : call.metric? = some event.metric := by
  have hcall : event.call = call := Event.call_of_ofCall h
  rw [← hcall, event.metric?_call]

/-- What a mutation that a handle takes is like. -/
theorem exists_of_takes {flags : Flags} {space : Option String} {call : Call} {u : Mutation}
    (h : call.takes flags space u = true) :
    ∃ metric, call.metric? = some metric ∧ u.verb ∈ metric.kind.verbs
      ∧ (metric.kind = .counter → call.series? flags space ≠ none → 0 ≤ u.units) := by
  unfold takes at h
  split at h
  · next metric hmetric =>
    simp only [Bool.and_eq_true, Bool.or_eq_true, bne_iff_ne, Option.isNone_iff_eq_none,
      decide_eq_true_eq, List.contains_iff_mem] at h
    obtain ⟨⟨hverb, -⟩, hnonneg⟩ := h
    refine ⟨metric, hmetric, hverb, fun hkind hseries => ?_⟩
    rcases hnonneg with (hne | hnone) | hnonneg
    · exact absurd hkind hne
    · exact absurd hnone hseries
    · exact hnonneg
  · exact absurd h Bool.false_ne_true

/-- **The series of an accepted call** is one of its metric, which is on. -/
theorem exists_of_series? {flags : Flags} {space : Option String} {call : Call}
    (h : call.isAccepted = true) {id : SeriesId} (hid : call.series? flags space = some id) :
    ∃ metric ∈ Catalogue.permitted flags, call.metric? = some metric
      ∧ ∃ values : List String, values.length = metric.labels.length
        ∧ id = ⟨qualify space metric.name, values⟩ := by
  obtain ⟨event, hevent, -⟩ := exists_event h
  have hseries : call.series? flags space = _ := series?_of_event hevent flags space
  rw [hid] at hseries
  split at hseries
  · next hpermits =>
    obtain ⟨values, hvalues, heq⟩ := Option.map_eq_some_iff.mp hseries.symm
    refine ⟨event.metric, List.mem_filter.mpr ⟨event.metric_mem_all, hpermits⟩,
      metric?_of_event hevent, values, Event.length_of_texts? hvalues, heq.symm⟩
  · cases hseries

end Call

namespace Facade

variable {facade : Facade} {event : Event} {limits : Limits} (store : Store) (logging : Logging)
  (stamp : String)

theorem flags_countDrop : (facade.countDrop event).flags = facade.flags := by
  unfold countDrop
  split <;> rfl

theorem space_countDrop : (facade.countDrop event).space = facade.space := by
  unfold countDrop
  split <;> rfl

/-- What is refused of an event is its answer, and nothing has happened. -/
theorem report_of_misfit {fault : Fault} (hmisfit : misfit? event.sources limits = some fault) :
    facade.report store logging stamp event limits = (.error fault, facade, store) := by
  unfold report
  rw [hmisfit]

/-- The answer for a metric that is off. -/
theorem report_of_off (hmisfit : misfit? event.sources limits = none)
    (hoff : facade.flags.permits event.metric.flag = false) :
    facade.report store logging stamp event limits
      = (.ok ⟨.idle event.metric.kind, []⟩, facade, store) := by
  unfold report covers
  rw [hmisfit, hoff]
  rfl

/-- The answer for a peer that has no network: a drop. -/
theorem report_of_unreducible (hmisfit : misfit? event.sources limits = none)
    (hon : facade.flags.permits event.metric.flag = true)
    (hnone : LabelSource.texts? event.sources = none) :
    ∃ records, facade.report store logging stamp event limits
      = (.ok ⟨.idle event.metric.kind, records⟩, facade.countDrop event, store) := by
  have hlabelling := labelling_eq event.sources
  rw [hnone] at hlabelling
  obtain ⟨peer, hpeer⟩ := hlabelling
  unfold report covers
  rw [hmisfit, hon]
  dsimp only
  rw [Bool.not_true, if_neg Bool.false_ne_true, hpeer]
  exact ⟨_, rfl⟩

/-- The answer for a series that the store resolves. -/
theorem report_of_texts? {store store' : Store} {values : List String} {id : SeriesId}
    (hmisfit : misfit? event.sources limits = none)
    (hon : facade.flags.permits event.metric.flag = true)
    (hvalues : LabelSource.texts? event.sources = some values)
    (hresolve : store.resolve (qualify facade.space event.metric.name)
      (.of event.metric.labels values) = (.ok id, store')) :
    facade.report store logging stamp event limits = (.ok ⟨.live id, []⟩, facade, store') := by
  have hlabelling := labelling_eq event.sources
  rw [hvalues, event.map_fst_sources] at hlabelling
  unfold report covers
  rw [hmisfit, hon]
  dsimp only
  rw [Bool.not_true, if_neg Bool.false_ne_true, hlabelling]
  dsimp only
  rw [hresolve]

/-- **A facade answers a call** with its handle, if the store resolves the series
of the call. The store is then in whichever state the two ways lead to. -/
theorem report_answers (store : Store) {call : Call}
    (hevent : Event.ofCall call.method call.args = .ok event)
    (hmisfit : misfit? event.sources limits = none) {P : Store → Prop}
    (hidle : call.series? facade.flags facade.space = none → P store)
    (hlive : ∀ values, event.metric ∈ Catalogue.permitted facade.flags →
      values.length = event.metric.labels.length →
      call.series? facade.flags facade.space
        = some ⟨qualify facade.space event.metric.name, values⟩ →
      ∃ store', store.resolve (qualify facade.space event.metric.name)
          (.of event.metric.labels values)
            = (.ok ⟨qualify facade.space event.metric.name, values⟩, store')
        ∧ P store') :
    ∃ records facade' store',
      facade.report store logging stamp event limits
          = (.ok ⟨call.handle facade.flags facade.space, records⟩, facade', store')
        ∧ facade'.flags = facade.flags ∧ facade'.space = facade.space ∧ P store' := by
  have hseries : call.series? facade.flags facade.space = _ :=
    Call.series?_of_event hevent facade.flags facade.space
  have hhandle (hnone : call.series? facade.flags facade.space = none) :
      call.handle facade.flags facade.space = .idle event.metric.kind := by
    unfold Call.handle
    rw [hnone, Call.metric?_of_event hevent]
    rfl
  cases hon : facade.flags.permits event.metric.flag with
  | false =>
    rw [hon, if_neg Bool.false_ne_true] at hseries
    refine ⟨[], facade, store, ?_, rfl, rfl, hidle hseries⟩
    rw [hhandle hseries, report_of_off _ _ _ hmisfit hon]
  | true =>
    rw [hon, if_pos rfl] at hseries
    cases hvalues : LabelSource.texts? event.sources with
    | none =>
      rw [hvalues] at hseries
      obtain ⟨records, hreport⟩ := report_of_unreducible store logging stamp hmisfit hon hvalues
      refine ⟨records, facade.countDrop event, store, ?_, flags_countDrop, space_countDrop,
        hidle hseries⟩
      rw [hhandle hseries, hreport]
    | some values =>
      rw [hvalues] at hseries
      obtain ⟨store', hresolve, hstore'⟩ := hlive values
        (List.mem_filter.mpr ⟨event.metric_mem_all, hon⟩) (Event.length_of_texts? hvalues) hseries
      have hlive : call.handle facade.flags facade.space
          = .live ⟨qualify facade.space event.metric.name, values⟩ := by
        unfold Call.handle
        rw [hseries]
        rfl
      refine ⟨[], facade, store', ?_, rfl, rfl, hstore'⟩
      rw [hlive, report_of_texts? _ _ hmisfit hon hvalues hresolve]

/-- **A facade answers an accepted call** with its handle, and its series is one
that was asked for from then on. -/
theorem report_of {asked : SeriesId → Prop} {us : SeriesId → List Mutation} {m : Memory}
    (h : m.Holds facade.flags facade.space asked us) {call : Call}
    (hevent : Event.ofCall call.method call.args = .ok event)
    (hmisfit : misfit? event.sources = none) :
    ∃ records facade' m',
      facade.report (.memory m) logging stamp event
          = (.ok ⟨call.handle facade.flags facade.space, records⟩, facade', .memory m')
        ∧ facade'.flags = facade.flags ∧ facade'.space = facade.space
        ∧ m'.Holds facade.flags facade.space
          (fun id => call.series? facade.flags facade.space = some id ∨ asked id) us := by
  obtain ⟨records, facade', store', hreport, hflags, hspace, m', rfl, hholds⟩ :=
    report_answers logging stamp (.memory m) hevent hmisfit
      (P := fun store' => ∃ m', store' = .memory m'
        ∧ m'.Holds facade.flags facade.space
          (fun id => call.series? facade.flags facade.space = some id ∨ asked id) us)
      (fun hnone => ⟨m, rfl, h.congr (fun _ _ _ _ => by rw [hnone]; simp) fun _ => rfl⟩)
      fun values hmetric hlength hseries => by
        obtain ⟨m', hresolve, hholds⟩ := h.resolve hmetric hlength
        refine ⟨.memory m', congrArg (Store.put .memory) hresolve, m', rfl,
          hholds.congr (fun _ _ _ _ => ?_) fun _ => rfl⟩
        rw [hseries, Option.some.injEq, eq_comm]
  exact ⟨records, facade', m', hreport, hflags, hspace, hholds⟩

end Facade

/-- **The handle of a call takes what is accepted**, and its series, if it has
one, has one mutation more. -/
theorem Call.operate_handle {flags : Flags} {space : Option String} {asked : SeriesId → Prop}
    {us : SeriesId → List Mutation} {m : Memory} (h : m.Holds flags space asked us) {call : Call}
    (hcall : call.isAccepted = true)
    (hasked : ∀ id, call.series? flags space = some id → asked id) {verb : Verb}
    {args : List Value} {argument : Value} (hargument : verb.argument args = .ok argument)
    (htakes : call.takes flags space ⟨verb, argument⟩ = true)
    (hexact : ∀ id, call.series? flags space = some id → Exact (us id ++ [⟨verb, argument⟩])) :
    ∃ m', (call.handle flags space).call (.memory m) verb args = (.ok (), .memory m')
      ∧ m'.Holds flags space asked fun id =>
        if call.series? flags space = some id then us id ++ [⟨verb, argument⟩] else us id := by
  obtain ⟨metric, hmetric, hverb, hnonneg⟩ := exists_of_takes htakes
  unfold Call.handle
  cases hseries : call.series? flags space with
  | none =>
    refine ⟨m, ?_, h.congr (fun _ _ _ _ => Iff.rfl) fun id => if_neg (by simp)⟩
    unfold Handle.call
    dsimp only
    rw [hmetric, Option.map_some, Option.getD_some, if_pos (List.contains_iff_mem.mpr hverb),
      hargument]
    rfl
  | some id =>
    obtain ⟨metric', hpermitted, hmetric', values, hlength, rfl⟩ := exists_of_series? hcall hseries
    obtain rfl := Option.some.inj (hmetric.symm.trans hmetric')
    have hshape : (Facade.shapeOf metric).Takes ⟨verb, argument⟩ := by
      refine ⟨(Facade.verbs_shapeOf metric).symm ▸ hverb, fun hcounter => ?_⟩
      exact hnonneg (Facade.kind_of_shapeOf hcounter) (by rw [hseries]; exact Option.some_ne_none _)
    obtain ⟨m', hoperate, hholds⟩ := h.call hpermitted hlength (hasked _ hseries) hargument hshape
      (hexact _ hseries)
    refine ⟨m', ?_, hholds.congr (fun _ _ _ _ => Iff.rfl) fun id => ?_⟩
    · unfold Handle.call Store.call Store.put
      dsimp only
      rw [hoperate]
    · simp only [Option.some.injEq, eq_comm (a := id)]

/-! ## Sessions that follow a ledger -/

/-- **A session that did what a ledger says**: it gave out the handles of the calls,
and its store holds the mutations. -/
structure FacadeSession.Follows (flags : Flags) (space : Option String) (ledger : Ledger)
    (session : FacadeSession) :
    Prop where
  flags_eq : session.facade.flags = flags
  space_eq : session.facade.space = space
  accepted : ∀ entry ∈ ledger.calls, entry.2.isAccepted = true
  handles : session.handles = ledger.calls.map fun entry => (entry.1, entry.2.handle flags space)
  store : ∃ m, session.store = .memory m
    ∧ m.Holds flags space (ledger.Asked flags space) (ledger.mutations flags space)

namespace Ledger

variable (flags : Flags) (space : Option String) (ledger : Ledger) (caller : Nat)

theorem asked_note_call (call : Call) (stamp : String) (id : SeriesId) :
    (ledger.note caller (.call call stamp)).Asked flags space id
      ↔ call.series? flags space = some id ∨ ledger.Asked flags space id := by
  unfold Asked note
  dsimp only
  simp only [List.mem_append, List.mem_singleton, or_and_right, exists_or, exists_eq_left]
  rw [← or_assoc, or_comm]

theorem note_operate {handle : Nat} {verb : Verb} {args : List Value} {call : Call} {u : Mutation}
    (hcall : (own caller ledger.calls)[handle]? = some call) (hu : Mutation.of? verb args = some u) :
    ledger.note caller (.operate handle verb args)
      = { ledger with entries := ledger.entries ++ [(caller, call, u)] } := by
  unfold note
  dsimp only
  rw [hcall, hu]

theorem mutations_append (call : Call) (u : Mutation) (id : SeriesId) :
    mutations flags space { ledger with entries := ledger.entries ++ [(caller, call, u)] } id
      = if call.series? flags space = some id then ledger.mutations flags space id ++ [u]
        else ledger.mutations flags space id := by
  unfold mutations
  dsimp only
  rw [List.filterMap_append]
  split
  · next h => simp [h]
  · next h => simp [h]

end Ledger

namespace FacadeSession.Follows

variable {flags : Flags} {space : Option String} {ledger : Ledger} {session : FacadeSession}

/-- **A call that is accepted is answered.** -/
theorem call (h : session.Follows flags space ledger) (logging : Logging) (caller : Nat)
    {made : Call}
    (hmade : made.isAccepted = true) (stamp : String) :
    ∃ session', session.step logging caller (.call made stamp) = .ok session'
      ∧ session'.Follows flags space (ledger.note caller (.call made stamp)) := by
  obtain ⟨rfl, rfl, haccepted, hhandles, m, hstore, hholds⟩ := h
  obtain ⟨event, hevent, hmisfit⟩ := Call.exists_event hmade
  obtain ⟨records, facade', m', hreport, hflags, hspace, hholds'⟩ :=
    Facade.report_of logging stamp hholds hevent hmisfit
  let answer := made.handle session.facade.flags session.facade.space
  refine ⟨⟨facade', .memory m', session.handles ++ [(caller, answer)]⟩, ?_, hflags, hspace, ?_, ?_,
    m', rfl, ?_⟩
  · unfold step
    dsimp only
    rw [hevent, hstore]
    simp only [bind, Except.bind]
    rw [hreport]
    rfl
  · intro entry hentry
    rcases List.mem_append.mp hentry with hentry | hentry
    · exact haccepted entry hentry
    · obtain rfl := List.mem_singleton.mp hentry
      exact hmade
  · dsimp only [Ledger.note]
    rw [hhandles, List.map_append]
    rfl
  · exact hholds'.congr
      (fun _ _ _ _ => (Ledger.asked_note_call _ _ ledger caller made stamp _).symm) fun _ => rfl

/-- **A mutation that is accepted is made**, and only what a handle belongs to
shows it. -/
theorem operate (h : session.Follows flags space ledger) (logging : Logging) (caller : Nat)
    {handle : Nat} {verb : Verb} {args : List Value}
    (haccepted : (FacadeAction.operate handle verb args).isAccepted flags space
      (own caller ledger.calls)
      = true)
    (hexact : ∀ id, Exact
      ((ledger.note caller (.operate handle verb args)).mutations flags space id)) :
    ∃ session', session.step logging caller (.operate handle verb args) = .ok session'
      ∧ session'.Follows flags space (ledger.note caller (.operate handle verb args)) := by
  obtain ⟨made, u, hmade, hu, htakes⟩ := FacadeAction.exists_of_isAccepted haccepted
  obtain ⟨argument, hargument, rfl⟩ := Mutation.exists_of_of? hu
  rw [Ledger.note_operate ledger caller hmade hu] at hexact ⊢
  obtain ⟨rfl, rfl, hcalls, hhandles, m, hstore, hholds⟩ := h
  have hmem : (caller, made) ∈ ledger.calls := mem_of_mem_own (List.mem_of_getElem? hmade)
  have hhandle : (own caller session.handles)[handle]?
      = some (made.handle session.facade.flags session.facade.space) := by
    rw [hhandles, own_map, List.getElem?_map, hmade]
    rfl
  obtain ⟨m', hoperate, hholds'⟩ := made.operate_handle hholds (hcalls _ hmem)
    (fun id hid => .inr ⟨_, hmem, hid⟩) hargument htakes fun id hid => by
      have hus := hexact id
      rwa [Ledger.mutations_append, if_pos hid] at hus
  refine ⟨{ session with store := .memory m' }, ?_, rfl, rfl, hcalls, hhandles, m', rfl,
    hholds'.congr (fun _ _ _ _ => Iff.rfl) fun id => Ledger.mutations_append _ _ _ _ _ _ _⟩
  unfold step
  dsimp only
  rw [hhandle, hstore]
  dsimp only
  rw [hoperate]
  rfl

/-- An action that is accepted is done. -/
theorem step (h : session.Follows flags space ledger) (logging : Logging) (caller : Nat)
    {action : FacadeAction}
    (haccepted : action.isAccepted flags space (own caller ledger.calls) = true)
    (hexact : ∀ id, Exact ((ledger.note caller action).mutations flags space id)) :
    ∃ session', session.step logging caller action = .ok session'
      ∧ session'.Follows flags space (ledger.note caller action) := by
  cases action with
  | call made stamp => exact h.call logging caller haccepted stamp
  | operate handle verb args => exact h.operate logging caller haccepted hexact

/-- **A history in which every action is accepted is done to its end**, and the
session follows the ledger there. -/
theorem run (h : session.Follows flags space ledger) (logging : Logging) {history : History}
    (haccepted : ∀ caller,
      accepts flags space (own caller ledger.calls) (own caller history) = true)
    (hexact : ∀ id, Exact ((ledger.noteAll history).mutations flags space id)) :
    ∃ session', session.run logging history = .ok session'
      ∧ session'.Follows flags space (ledger.noteAll history) := by
  induction history generalizing ledger session with
  | nil => exact ⟨session, rfl, h⟩
  | cons entry history ih =>
    obtain ⟨caller, action⟩ := entry
    have hown := haccepted caller
    rw [own_cons, if_pos rfl, accepts, Bool.and_eq_true] at hown
    obtain ⟨session', hstep, h'⟩ := h.step logging caller hown.1
      fun id => Ledger.exact_of_noteAll (hexact id)
    have hothers (other : Nat) : accepts flags space (own other (ledger.note caller action).calls)
        (own other history) = true := by
      rw [Ledger.own_calls_note]
      by_cases hother : caller = other
      · subst hother
        rw [if_pos rfl]
        exact hown.2
      · have hrest := haccepted other
        rw [own_cons, if_neg hother] at hrest
        rw [if_neg hother, List.append_nil]
        exact hrest
    obtain ⟨session'', hrun, h''⟩ := ih h' hothers hexact
    refine ⟨session'', ?_, h''⟩
    unfold FacadeSession.run at hrun ⊢
    rw [List.foldlM_cons, hstep]
    exact hrun

end FacadeSession.Follows

/-! ## Histories -/

namespace FacadeSession

/-- A new session follows the ledger in which there is nothing. -/
theorem start_of (flags : Flags) (space : Value) (logging : Logging) (stamp : String)
    (logger : Logger) :
    ∃ session, start flags space logging stamp logger = .ok session
      ∧ session.Follows flags space.space? {} := by
  obtain ⟨records, m, hbuild, hholds⟩ := Facade.build_of flags space logging stamp logger
  refine ⟨⟨⟨flags, space.space?, Catalogue.permitted flags, logger, 0, 0⟩, .memory m, []⟩, ?_, rfl,
    rfl, fun entry hentry => absurd hentry List.not_mem_nil, rfl, m, rfl, ?_⟩
  · unfold start
    rw [hbuild]
  · refine hholds.congr (fun _ _ _ _ => ⟨.inl, fun hasked => ?_⟩) fun _ => rfl
    rcases hasked with hvalues | ⟨entry, hentry, -⟩
    · exact hvalues
    · exact absurd hentry List.not_mem_nil

/-- What is in the store after a history is what the ledger says. -/
theorem serve_of (flags : Flags) (space : Value) (logging : Logging) (stamp : String)
    (logger : Logger) {history : History} (h : history.Fits flags space.space?) :
    ∃ m, serve flags space logging stamp logger history = .ok m
      ∧ (∀ entry ∈ (Ledger.noteAll {} history).calls, entry.2.isAccepted = true)
      ∧ m.Holds flags space.space? ((Ledger.noteAll {} history).Asked flags space.space?)
        ((Ledger.noteAll {} history).mutations flags space.space?) := by
  obtain ⟨session, hstart, hfollows⟩ := start_of flags space logging stamp logger
  obtain ⟨session', hrun, hfollows'⟩ := hfollows.run logging h.accepted h.exact
  obtain ⟨m, hstore, hholds⟩ := hfollows'.store
  refine ⟨m, ?_, hfollows'.accepted, hholds⟩
  unfold serve
  rw [hstart]
  simp only [bind, Except.bind]
  rw [hrun]
  dsimp only
  rw [hstore]
  rfl

/-- **A facade aggregates what is reported to it.** Whatever callers do that is
accepted, the facade can be built and everything is done. Then

* the store has exactly the metrics that are switched on, in the namespace;
* a call belongs to a series of the metric of its method, unless nothing is
  measured of it;
* every series of such a metric shows what the ledger says, and nothing where
  nothing happened; and
* in any other order of the same actions of each caller, counters and histograms
  show the same. -/
theorem serve_shows_ledger (flags : Flags) (space : Value) (logging : Logging) (stamp : String)
    (logger : Logger) {history : History} (h : history.Fits flags space.space?) :
    ∃ m, serve flags space logging stamp logger history = .ok m
      ∧ m.names = (Catalogue.permitted flags).map (fun metric => qualify space.space? metric.name)
      ∧ (∀ entry ∈ (Ledger.noteAll {} history).calls, ∃ metric ∈ Catalogue.all,
        entry.2.metric? = some metric
          ∧ (entry.2.series? flags space.space? = none ↔ entry.2.IsDropped flags metric))
      ∧ (∀ metric ∈ Catalogue.permitted flags, ∀ values : List String,
        values.length = metric.labels.length →
          let reading := (Ledger.noteAll {} history).reading flags space.space? metric values
          m.reading space.space? metric values = .ok reading
            ∧ ((∀ entry ∈ (Ledger.noteAll {} history).entries, entry.2.1.series? flags space.space?
              ≠ some ⟨qualify space.space? metric.name, values⟩) → reading.isZero = true))
      ∧ ∀ history' : History, (∀ caller, own caller history' = own caller history) →
        (∀ id, Exact ((Ledger.noteAll {} history').mutations flags space.space? id)) →
          ∃ m', serve flags space logging stamp logger history' = .ok m'
            ∧ ∀ metric ∈ Catalogue.permitted flags, metric.kind ≠ .gauge →
              ∀ values : List String, values.length = metric.labels.length →
                m'.reading space.space? metric values = m.reading space.space? metric values := by
  obtain ⟨m, hserve, haccepted, hholds⟩ := serve_of flags space logging stamp logger h
  refine ⟨m, hserve, hholds.names, fun entry hentry => ?_, fun metric hmetric values hlength => ?_,
    fun history' hown hexact => ?_⟩
  · obtain ⟨event, hevent, -⟩ := Call.exists_event (haccepted entry hentry)
    have hmetric := Call.metric?_of_event hevent
    exact ⟨event.metric, event.metric_mem_all, hmetric, Call.series?_eq_none_iff hmetric _ _⟩
  · exact ⟨hholds.reading_eq h.exact hmetric hlength, Ledger.isZero_reading⟩
  · have h' : history'.Fits flags space.space? :=
      ⟨fun caller => (hown caller).symm ▸ h.accepted caller, hexact⟩
    obtain ⟨m', hserve', -, hholds'⟩ := serve_of flags space logging stamp logger h'
    refine ⟨m', hserve', fun metric hmetric hkind values hlength => ?_⟩
    rw [hholds'.reading_eq hexact hmetric hlength, hholds.reading_eq h.exact hmetric hlength,
      Ledger.reading_of_interleaving hown flags space.space? hkind values]

/-- Two callers that see packets of one network. The second of them also sees
one of a peer that is no address, and the first observes a number of streams. -/
def twoCallers : History :=
  [(0, .call ⟨"expensive_accepted_initial_packet_count", [.text "203.0.113.9"]⟩ ""),
   (1, .call ⟨"expensive_accepted_initial_packet_count", [.text "203.0.119.1"]⟩ ""),
   (1, .call ⟨"expensive_accepted_initial_packet_count", [.text "nowhere"]⟩ ""),
   (0, .operate 0 .inc []),
   (1, .operate 1 .inc [.int 7]),
   (1, .operate 0 .inc [.int 2]),
   (0, .call ⟨"maximum_writable_streams", []⟩ ""),
   (0, .operate 1 .observe [.int 5])]

theorem fits_twoCallers : twoCallers.Fits .on (some "edge") := by
  have hwhole : ∀ entry ∈ (Ledger.noteAll {} twoCallers).entries, entry.2.2.isWhole 7 = true := by
    decide +kernel
  refine ⟨fun caller => ?_, Ledger.exact_of_isWhole hwhole (by decide +kernel) _ _⟩
  match caller with
  | 0 => decide +kernel
  | 1 => decide +kernel
  | n + 2 => rfl

/-- What the two callers did is counted in one series. -/
theorem serve_twoCallers :
    twoCallers.Fits .on (some "edge")
      ∧ ∃ m, serve .on (.text "edge") {} "" ⟨Facade.loggerName, true, .empty⟩ twoCallers = .ok m
        ∧ m.reading (some "edge") Catalogue.expensiveAcceptedInitialPacketCount ["203.0.112.0/20"]
          = .ok (.level (some (3 * Binary64.unitsPerOne))) := by
  obtain ⟨m, hserve, -, -, hreading, -⟩ := serve_shows_ledger .on (.text "edge") {} ""
    ⟨Facade.loggerName, true, .empty⟩ fits_twoCallers
  have hmetric : Catalogue.expensiveAcceptedInitialPacketCount ∈ Catalogue.permitted .on :=
    List.mem_filter.mpr ⟨by simp [Catalogue.all, Catalogue.connection], rfl⟩
  have hshown := (hreading _ hmetric ["203.0.112.0/20"] rfl).1
  refine ⟨fits_twoCallers, m, hserve, hshown.trans (congrArg Except.ok ?_)⟩
  decide +kernel

end FacadeSession

end QuicTelemetry
