import Mathlib.Data.List.Forall2
import Mathlib.Data.List.Perm.Subperm
import QuicTelemetry.Proofs.Facade.Contract
import QuicTelemetry.Proofs.Facade.Switching
import QuicTelemetry.Proofs.Label.WireCode

/-!
# Peers do not widen a family

A stage or a reason is a member of a closed set, so its metric has a series for
each member at most, whatever is reported and however long it goes on. That is a
property of the families of a memory store: no series comes twice, and its texts
are those that the parameters of the metric's method admit (`Family.Within`).
Resolving is all that adds a series, and what it adds comes from a call that was
taken, so **families stay within their parameters** (`FacadeSession.Confined.attemptAll`).

What a peer is free to choose is the code of a close. It becomes a label by its
place among the assigned codes, so which series it falls into is a matter of
places alone (`FacadeSession.series_confined`).
-/

namespace QuicTelemetry

/-! ## Families -/

/-- **A family within the parameters of its method**: each series comes once, and
its texts are admitted. -/
structure Family.Within (parameters : List (String × Parameter)) (f : Family MemoryCell) :
    Prop where
  /-- Each series comes once. -/
  distinct : f.series.keys.Nodup
  /-- Its texts are admitted. -/
  admits : ∀ values ∈ f.series.keys,
    List.Forall₂ (fun parameter text => parameter.2.Admits text) parameters values

namespace Family.Within

variable {parameters : List (String × Parameter)} {f : Family MemoryCell}

/-- **A series with admitted texts** may be asked for. -/
theorem ensure (h : f.Within parameters) {values : List String}
    (hvalues : List.Forall₂ (fun parameter text => parameter.2.Admits text) parameters values)
    (fresh : MemoryCell) : (f.ensure values fresh).Within parameters := by
  unfold Family.ensure
  split
  · exact h
  · next hhas =>
    have hnew : values ∉ f.series.keys := fun hmem => hhas ((Table.has_iff_mem_keys _ _).mpr hmem)
    have hkeys : (f.series.push values fresh).keys = f.series.keys ++ [values] :=
      Table.keys_push ..
    refine ⟨?_, fun values' hvalues' => ?_⟩
    · show (f.series.push values fresh).keys.Nodup
      rw [hkeys, List.nodup_append]
      refine ⟨h.distinct, List.nodup_singleton values, fun a ha b hb => ?_⟩
      obtain rfl := List.mem_singleton.mp hb
      rintro rfl
      exact hnew ha
    · rcases List.mem_append.mp (hkeys ▸ hvalues' : values' ∈ f.series.keys ++ [values]) with
        hold | hlast
      · exact h.admits values' hold
      · rwa [List.mem_singleton.mp hlast]

/-- An operation adds no series. -/
theorem operated (h : f.Within parameters) (values : List String) (verb : Verb)
    (args : List Value) : (f.operated values verb args).Within parameters := by
  have hkeys : (f.operated values verb args).series.keys = f.series.keys := by
    unfold Family.operated
    split
    · exact Table.keys_adjust ..
    · rfl
  exact ⟨hkeys ▸ h.distinct, hkeys ▸ h.admits⟩

/-- **The labels of a series** are what their parameters admit. -/
theorem admits_of_mem (h : f.Within parameters) (hlabels : f.labels = parameters.map Prod.fst)
    (hnodup : (parameters.map Prod.fst).Nodup) {values : List String} (hvalues : values ∈ f.series.keys)
    {label text : String} {parameter : Parameter} (hparameter : (label, parameter) ∈ parameters)
    (htext : (label, text) ∈ f.labelling values) : parameter.Admits text := by
  have hadmits := h.admits values hvalues
  rw [Family.labelling, hlabels] at htext
  clear hlabels h hvalues
  induction hadmits with
  | nil => exact absurd hparameter List.not_mem_nil
  | @cons first text' parameters values' hfirst _ ih =>
    rw [List.map_cons, List.nodup_cons] at hnodup
    rw [List.map_cons, List.zip_cons_cons, List.mem_cons] at htext
    rcases List.mem_cons.mp hparameter with rfl | hrest
    · rcases htext with heq | htext
      · rwa [(Prod.mk.inj heq).2]
      · exact absurd (List.of_mem_zip htext).1 hnodup.1
    · rcases htext with heq | htext
      · rw [← (Prod.mk.inj heq).1] at hnodup
        exact absurd (List.mem_map_of_mem hrest) hnodup.1
      · exact ih hnodup.2 hrest htext

/-- The labels of a series are those of the family. -/
theorem map_fst_labelling (h : f.Within parameters) (hlabels : f.labels = parameters.map Prod.fst)
    {values : List String} (hvalues : values ∈ f.series.keys) :
    (f.labelling values).map Prod.fst = f.labels := by
  refine List.map_fst_zip (Nat.le_of_eq ?_)
  rw [hlabels, List.length_map]
  exact (h.admits values hvalues).length_eq

/-- **A family of one closed label** has no more series than its set has
members. -/
theorem length_le {label : String} {dimension : Dimension}
    (h : f.Within [(label, .closed dimension)]) :
    f.series.keys.length ≤ dimension.members.length := by
  have hsubset : f.series.keys ⊆ dimension.texts.map fun text => [text] := by
    intro values hvalues
    cases h.admits values hvalues with
    | cons htext hrest =>
      cases hrest
      exact List.mem_map_of_mem htext
  have hlength := (List.subperm_of_subset h.distinct hsubset).length_le
  rwa [List.length_map, Dimension.texts, List.length_map] at hlength

end Family.Within

/-! ## Stores -/

/-- **A memory store of metrics whose families are within the parameters** of
their methods. -/
structure Memory.Confined (flags : Flags) (space : Option String) (m : Memory) : Prop where
  /-- The metrics that are on are registered. -/
  serves : m.Serves flags space
  /-- Their families are within their parameters. -/
  within : ∀ method ∈ Method.all, ∀ f, m.families.get? (qualify space method.metric.name) = some f →
    f.Within method.parameters

namespace Memory.Confined

variable {flags : Flags} {space : Option String} {m m' : Memory}

/-- **A change of one family** that leaves it within its parameters leaves the
store confined. -/
theorem alter (h : m.Confined flags space) {metric : Metric} (hmetric : metric ∈ Catalogue.all)
    {change : Family MemoryCell → Family MemoryCell}
    (halters : m.Alters (qualify space metric.name) change m')
    (hchange : ∀ method ∈ Method.all, method.metric = metric → ∀ f : Family MemoryCell,
      f.Within method.parameters → (change f).Within method.parameters) :
    m'.Confined flags space := by
  refine ⟨h.serves.alter halters, fun method hmethod f hf => ?_⟩
  rw [halters.get?] at hf
  split at hf
  · next heq =>
    obtain ⟨f', hf', rfl⟩ := Option.map_eq_some_iff.mp hf
    have hown : method.metric = metric :=
      Catalogue.eq_of_qualify_eq (Method.metric_mem_all method hmethod) hmetric heq
    exact hchange method hmethod hown f' (h.within method hmethod f' (heq ▸ hf'))
  · exact h.within method hmethod f hf

/-- Registered families have no series, so they are within any parameters. -/
theorem families (flags : Flags) (space : Option String) :
    (Memory.mk (Facade.families flags space)).Confined flags space := by
  refine ⟨Facade.serves_families flags space, fun method hmethod f hf => ?_⟩
  have hseries : f.series = .empty := Facade.series_families hf
  refine ⟨?_, fun values hvalues => ?_⟩
  · rw [hseries]
    exact List.nodup_nil
  · rw [hseries] at hvalues
    exact absurd hvalues List.not_mem_nil

/-- Asking for a series without labels leaves a store confined. -/
theorem ensured {metric : Metric} (hmetric : metric ∈ Catalogue.all) (hlabels : metric.labels = [])
    (halters : m.Alters (qualify space metric.name) (Memory.ensured []) m')
    (h : m.Confined flags space) : m'.Confined flags space := by
  refine h.alter hmetric halters fun method hmethod hown f hf => hf.ensure ?_ _
  have hnone : method.parameters = [] := by
    rw [← List.map_eq_nil_iff, Method.map_fst_parameters method hmethod, hown, hlabels]
  rw [hnone]
  exact .nil

end Memory.Confined

/-! ## Calls and operations -/

/-- **What a call asks for** is within the parameters of its method. -/
theorem Call.within_resolved? {call : Call} {event : Event}
    (hevent : Event.ofCall call.method call.args = .ok event)
    (hmisfit : Facade.misfit? event.sources = none) (flags : Flags) (space : Option String)
    {method : Method} (hmethod : method ∈ Method.all) (hmetric : method.metric = event.metric)
    {f : Family MemoryCell} (h : f.Within method.parameters) :
    (Memory.resolved? (call.series? flags space) f).Within method.parameters := by
  have hseries : call.series? flags space = _ := series?_of_event hevent flags space
  rw [hseries]
  split
  · cases hvalues : LabelSource.texts? event.sources with
    | none => exact h
    | some values => exact h.ensure (Event.admits_texts? hmisfit hvalues hmethod hmetric) _
  · exact h

/-- **A label of a closed set** makes an event of its method, with its text for the
one label. -/
theorem Method.exists_labelled {method : Method} (hmethod : method ∈ Method.all)
    {label : String} {dimension : Dimension}
    (hparameters : method.parameters = [(label, .closed dimension)]) {l : Label}
    (hl : l ∈ dimension.members) :
    ∃ event, Event.ofCall method.name [.label l] = .ok event ∧ event.metric = method.metric
      ∧ Facade.misfit? event.sources = none
      ∧ LabelSource.texts? event.sources = some [l.text] := by
  obtain ⟨event, hevent, hmetric, hsources⟩ :=
    Method.exists_event hmethod (show [Value.label l].length = _ by rw [hparameters]; rfl)
  have htakes : method.Takes [.label l] ∧ method.Writes .standard [.label l] := by
    unfold Method.Takes Method.Writes
    rw [hparameters]
    simpa [Parameter.Takes, Parameter.Writes] using ⟨hl, Or.inl hl⟩
  refine ⟨event, hevent, hmetric, ?_, ?_⟩
  · rcases Facade.misfit?_sources .standard hmethod [.label l] with
      ⟨-, -, hnone⟩ | ⟨hnot, -, -⟩ | ⟨hnot, -⟩
    · rw [hsources, hnone]
    · exact absurd htakes.1 hnot
    · exact absurd htakes.2 hnot
  · rw [hsources, Method.sources, hparameters]
    rfl

/-- **A series that was asked for** is among the rows of its family. -/
theorem Memory.Serves.rows {flags : Flags} {space : Option String}
    {m m' : Memory} (h : m.Serves flags space) {metric : Metric}
    (hmetric : metric ∈ Catalogue.permitted flags) {values : List String}
    (halters : m.Alters (qualify space metric.name) (Memory.ensured values) m') :
    ∃ rows, m'.series (qualify space metric.name) = .ok rows ∧ metric.labels.zip values ∈ rows := by
  obtain ⟨f, hf, -, hlabels⟩ := h.families metric hmetric
  have hrows : m'.rows? (qualify space metric.name)
      = some (metric.labels, (Memory.ensured values f).series.keys) := by
    unfold Memory.rows?
    rw [halters.get?, if_pos rfl, hf]
    show some ((Memory.ensured values f).labels, _) = _
    rw [(halters.keeps f).2.trans hlabels]
  have hmem : values ∈ (Memory.ensured values f).series.keys := by
    rw [← Table.has_iff_mem_keys]
    show ((f.ensure values (.fresh f.shape)).cell? values).isSome = true
    rw [Family.cell?_ensure, if_pos rfl]
    rfl
  exact ⟨_, Memory.series_of_rows? hrows, List.mem_map_of_mem hmem⟩

namespace FacadeSession

/-- **A session whose store is confined**, and whose handles are those of metrics. -/
structure Confined (flags : Flags) (space : Option String) (session : FacadeSession) : Prop where
  /-- The flags of the facade. -/
  flags_eq : session.facade.flags = flags
  /-- The namespace of the facade. -/
  space_eq : session.facade.space = space
  /-- The store. -/
  store : ∃ m, session.store = .memory m ∧ m.Confined flags space
  /-- The handles that were given out. -/
  handles : ∀ entry ∈ session.handles, ∃ metric ∈ Catalogue.all, entry.2.Belongs flags space metric

variable {flags : Flags} {space : Option String} {session : FacadeSession}

/-- A new facade over a new store is confined. -/
theorem confined_start (flags : Flags) (space : Value) (logging : Logging) (stamp : String)
    (logger : Logger) :
    ∃ session, start flags space logging stamp logger = .ok session
      ∧ session.Confined flags space.space? := by
  obtain ⟨_, m, hbuild, -, hm⟩ := Facade.build_keeps flags space logging stamp logger
    (Memory.Confined.families flags space.space?) fun metric hmetric hlabels _ _ halters hm =>
      hm.ensured (Catalogue.mem_all_of_mem_permitted hmetric) hlabels halters
  let facade : Facade := ⟨flags, space.space?, Catalogue.permitted flags, logger, 0, 0⟩
  refine ⟨{ facade, store := .memory m }, ?_, rfl, rfl, ⟨m, rfl, hm⟩,
    fun _ hmem => absurd hmem List.not_mem_nil⟩
  unfold start
  rw [hbuild]

namespace Confined

/-- **A call** leaves a session confined. -/
theorem call (h : session.Confined flags space) (logging : Logging) (caller : Nat) (made : Call)
    (stamp : String) :
    (session.attempt logging caller (.call made stamp)).2.Confined flags space := by
  have hsame := h
  obtain ⟨rfl, rfl, ⟨m, hm, hconfined⟩, hhandles⟩ := h
  unfold attempt
  dsimp only
  cases hevent : Event.ofCall made.method made.args with
  | error fault => exact hsame
  | ok event =>
    dsimp only
    cases hmisfit : Facade.misfit? event.sources with
    | some fault =>
      rw [Facade.report_of_misfit _ logging stamp hmisfit]
      exact hsame
    | none =>
      obtain ⟨records, facade, m', hreport, hflags, hspace, halters⟩ :=
        Facade.report_alters hconfined.serves logging stamp hevent hmisfit
      obtain ⟨metric, hmetric, hbelongs, -⟩ :=
        made.alike_handle hevent session.facade.flags session.facade.flags session.facade.space
      rw [hm, hreport]
      refine ⟨hflags, hspace, ⟨m', rfl, ?_⟩, ?_⟩
      · exact hconfined.alter event.metric_mem_all halters fun method hmethod hown f hf =>
          made.within_resolved? hevent hmisfit _ _ hmethod hown hf
      · intro entry hentry
        rcases List.mem_append.mp hentry with hold | hlast
        · exact hhandles entry hold
        · rw [List.mem_singleton.mp hlast]
          exact ⟨metric, hmetric, hbelongs⟩

/-- **An operation on a handle** leaves a session confined. -/
theorem operate (h : session.Confined flags space) (logging : Logging) (caller : Nat) (handle : Nat)
    (verb : Verb) (args : List Value) :
    (session.attempt logging caller (.operate handle verb args)).2.Confined flags space := by
  obtain ⟨m, hm, hconfined⟩ := h.store
  unfold attempt
  dsimp only
  split
  · exact h
  · next given hgiven =>
    obtain ⟨metric, hmetric, hbelongs⟩ :=
      h.handles _ (mem_of_mem_own (List.mem_of_getElem? hgiven))
    obtain ⟨m', hm', halters⟩ := Handle.alters_call hbelongs m verb args
    refine ⟨h.flags_eq, h.space_eq, ⟨m', by rw [← hm', hm], ?_⟩, h.handles⟩
    refine hconfined.alter hmetric halters fun method _ _ f hf => ?_
    cases given with
    | idle kind => exact hf
    | live id => exact hf.operated id.values verb args

/-- **Sessions stay confined** whatever is done. -/
theorem attemptAll (h : session.Confined flags space) (logging : Logging) (history : History) :
    (session.attemptAll logging history).2.Confined flags space := by
  induction history generalizing session with
  | nil => exact h
  | cons entry history ih =>
    obtain ⟨caller, action⟩ := entry
    refine ih ?_
    cases action with
    | call made stamp => exact h.call logging caller made stamp
    | operate handle verb args => exact h.operate logging caller handle verb args

end Confined

/-! ## What is recorded -/

/-- **A session records a label in a series**: a call of a method with the label is
answered by the handle of the series, which its family then shows. -/
def Records (logging : Logging) (session : FacadeSession) (method : Method) (l : Label)
    (id : SeriesId) : Prop :=
  ∀ caller stamp, ∃ m rows,
    (session.attempt logging caller (.call ⟨method.name, [.label l]⟩ stamp)).1 = .ok
    (some (.live id))
      ∧ (session.attempt logging caller (.call ⟨method.name, [.label l]⟩ stamp)).2.store = .memory m
      ∧ m.series id.family = .ok rows ∧ method.metric.labels.zip id.values ∈ rows

/-- **A label of a closed set** is recorded in the series of its text. -/
theorem Confined.records (h : session.Confined flags space) (logging : Logging) {method : Method}
    (hmethod : method ∈ Method.all) (hon : flags.permits method.metric.flag = true) {label : String}
    {dimension : Dimension} (hparameters : method.parameters = [(label, .closed dimension)])
    {l : Label} (hl : l ∈ dimension.members) :
    session.Records logging method l ⟨qualify space method.metric.name, [l.text]⟩ := by
  intro caller stamp
  obtain ⟨rfl, rfl, ⟨m, hm, hconfined⟩, -⟩ := h
  obtain ⟨event, hevent, hmetric, hmisfit, htexts⟩ :=
    Method.exists_labelled hmethod hparameters hl
  rw [← hmetric] at hon ⊢
  let call : Call := ⟨method.name, [.label l]⟩
  let id : SeriesId := ⟨qualify session.facade.space event.metric.name, [l.text]⟩
  have hcall : Event.ofCall call.method call.args = .ok event := hevent
  have hseries : call.series? session.facade.flags session.facade.space = some id := by
    have hevent : call.series? session.facade.flags session.facade.space = _ :=
      Call.series?_of_event hcall session.facade.flags session.facade.space
    rw [hevent, hon, htexts]
    rfl
  obtain ⟨records, facade, m', hreport, -, -, halters⟩ :=
    Facade.report_alters hconfined.serves logging stamp hcall hmisfit
  rw [hseries] at halters
  obtain ⟨rows, hrows, hrow⟩ :=
    hconfined.serves.rows (List.mem_filter.mpr ⟨event.metric_mem_all, hon⟩) halters
  have hanswer : session.attempt logging caller (.call call stamp)
      = (.ok (some (.live id)), ⟨facade, .memory m', session.handles ++ [(caller, .live id)]⟩) := by
    unfold attempt
    simp only [hcall, hm, hreport, Call.handle, hseries]
  exact ⟨m', rows, congrArg Prod.fst hanswer, congrArg (fun result => result.2.store) hanswer,
    hrows, hrow⟩

/-! ## Confinement -/

/-- **The rows of a metric with a closed label.** -/
theorem Confined.rows (h : session.Confined flags space) {method : Method}
    (hmethod : method ∈ Method.all)
    (hon : flags.permits method.metric.flag = true) {label : String} {dimension : Dimension}
    (hparameter : (label, .closed dimension) ∈ method.parameters) {m : Memory}
    (hm : session.store = .memory m) :
    ∃ rows, m.series (qualify space method.metric.name) = .ok rows
      ∧ (∀ row ∈ rows, row.map Prod.fst = method.metric.labels
        ∧ ∀ text, (label, text) ∈ row → text ∈ dimension.texts)
      ∧ (method.metric.labels = [label] → rows.length ≤ dimension.members.length) := by
  obtain ⟨m', hm', hconfined⟩ := h.store
  obtain rfl := Store.memory.inj (hm.symm.trans hm')
  have hmetric := Method.metric_mem_all method hmethod
  obtain ⟨f, hf, -, hlabels⟩ :=
    hconfined.serves.families method.metric (List.mem_filter.mpr ⟨hmetric, hon⟩)
  have hwithin := hconfined.within method hmethod f hf
  have hnames := Method.map_fst_parameters method hmethod
  have hrows : m.rows? (qualify space method.metric.name) = some (f.labels, f.series.keys) := by
    unfold Memory.rows?
    rw [hf]
    rfl
  refine ⟨_, Memory.series_of_rows? hrows, fun row hrow => ?_, fun hone => ?_⟩
  · obtain ⟨values, hvalues, rfl⟩ := List.mem_map.mp hrow
    refine ⟨?_, fun text htext => ?_⟩
    · rw [← hlabels]
      exact hwithin.map_fst_labelling (hlabels.trans hnames.symm) hvalues
    · exact hwithin.admits_of_mem (hlabels.trans hnames.symm)
        (hnames ▸ Catalogue.nodup_labels _ hmetric) hvalues hparameter htext
  · have hsingle : method.parameters = [(label, .closed dimension)] := by
      obtain ⟨entry, hentry⟩ : ∃ entry, method.parameters = [entry] := by
        rw [← List.length_eq_one_iff, ← List.length_map (f := Prod.fst), hnames, hone]
        rfl
      rw [hentry] at hparameter ⊢
      rw [List.mem_singleton.mp hparameter]
    rw [List.length_map]
    exact (hsingle ▸ hwithin).length_le

/-- **Peers do not widen a family.** A facade is built over a new memory store, and
callers do anything with it, which may fail. Then

* every series of a metric that tells stages or reasons of a closed set carries
  one of its texts, and if the metric tells nothing else, it has no more series
  than the set has members;
* the codes an application or a transport is closed with are recorded in one
  series by one method exactly if they are equal, if neither is assigned, or, of
  the transport, if both are alerts;
* the codes kept free for probing are recorded as `unknown`. -/
theorem series_confined (flags : Flags) (space : Value) (logging : Logging) (stamp : String)
    (logger : Logger) (history : History) :
    ∃ d m, start flags space logging stamp logger = .ok d
      ∧ (d.attemptAll logging history).2.store = .memory m
      ∧ (∀ metric ∈ Catalogue.permitted flags, metric.name ≠ "quic_invalid_cid_packet_count" →
        ∀ label ∈ ["stage", "reason"], label ∈ metric.labels →
          ∃ method ∈ Method.all, ∃ dimension rows, method.metric = metric
            ∧ (label, .closed dimension) ∈ method.parameters
            ∧ m.series (qualify space.space? metric.name) = .ok rows
            ∧ (∀ row ∈ rows, row.map Prod.fst = metric.labels
              ∧ ∀ text, (label, text) ∈ row → text ∈ dimension.texts)
            ∧ (metric.labels = [label] → rows.length ≤ dimension.members.length))
      ∧ (∀ method ∈ Method.all, method.parameters = [("reason", .closed .http3Error)] →
        ∃ id : Int → SeriesId,
          (∀ code, (d.attemptAll logging history).2.Records logging method
            (.http3Error (.ofWireCode code)) (id code))
          ∧ (∀ code code', id code = id code'
            ↔ code = code' ∨ (¬ Http3Error.IsAssigned code ∧ ¬ Http3Error.IsAssigned code'))
          ∧ ∀ n : Nat, id (0x1f * n + 0x21)
            = ⟨qualify space.space? method.metric.name, ["unknown"]⟩)
      ∧ ∀ method ∈ Method.all, method.parameters = [("reason", .closed .transportError)] →
        ∃ id : Int → SeriesId,
          (∀ code, (d.attemptAll logging history).2.Records logging method
            (.transportError (.ofWireCode code)) (id code))
          ∧ ∀ code code', id code = id code'
            ↔ code = code' ∨ (¬ TransportError.IsAssigned code ∧ ¬ TransportError.IsAssigned code')
              ∨ (TransportError.IsAlert code ∧ TransportError.IsAlert code') := by
  obtain ⟨d, hd, hstart⟩ := confined_start flags space logging stamp logger
  have hend := hstart.attemptAll logging history
  obtain ⟨m, hm, -⟩ := hend.store
  -- the methods that report closes are always on
  have hon : ∀ method ∈ Method.all, ∀ dimension ∈ [Dimension.http3Error, .transportError],
      method.parameters = [("reason", .closed dimension)] → method.metric.flag = none := by
    decide +kernel
  have hid (method : Method) (l l' : Label) :
      (⟨qualify space.space? method.metric.name, [l.text]⟩ : SeriesId)
        = ⟨qualify space.space? method.metric.name, [l'.text]⟩ ↔ l.text = l'.text := by simp
  refine ⟨d, m, hd, hm, ?_, fun method hmethod hparameters => ?_, fun method hmethod hparameters => ?_⟩
  · intro metric hmetric hname label hlabel hmem
    obtain ⟨hall, hpermits⟩ := List.mem_filter.mp hmetric
    obtain ⟨method, hmethod, dimension, rfl, hparameter⟩ :=
      Method.exists_closed hall hname hlabel hmem
    obtain ⟨rows, hrows⟩ := hend.rows hmethod hpermits hparameter hm
    exact ⟨method, hmethod, dimension, rows, rfl, hparameter, hrows⟩
  · have hpermits : flags.permits method.metric.flag = true := by
      rw [hon method hmethod .http3Error (by simp) hparameters]
      rfl
    refine ⟨fun code => ⟨qualify space.space? method.metric.name,
      [(Label.http3Error (.ofWireCode code)).text]⟩, fun code => ?_, fun code code' => ?_, fun n => ?_⟩
    · exact hend.records logging hmethod hpermits hparameters (Label.mem_members _)
    · rw [hid, ← Http3Error.ofWireCode_eq_iff]
      exact ⟨Http3Error.text_inj, congrArg Http3Error.text⟩
    · dsimp only
      rw [Http3Error.ofWireCode_reserved]
      rfl
  · have hpermits : flags.permits method.metric.flag = true := by
      rw [hon method hmethod .transportError (by simp) hparameters]
      rfl
    refine ⟨fun code => ⟨qualify space.space? method.metric.name,
      [(Label.transportError (.ofWireCode code)).text]⟩, fun code => ?_, fun code code' => ?_⟩
    · exact hend.records logging hmethod hpermits hparameters (Label.mem_members _)
    · rw [hid, ← TransportError.ofWireCode_eq_iff]
      exact ⟨TransportError.text_inj, congrArg TransportError.text⟩

end FacadeSession

end QuicTelemetry
