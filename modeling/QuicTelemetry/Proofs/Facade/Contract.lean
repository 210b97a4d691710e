import Mathlib.Data.List.Forall2
import QuicTelemetry.Proofs.Facade.Wiring
import QuicTelemetry.Proofs.Store.Session
import QuicTelemetry.Proofs.Value.Writing

/-!
# What the methods of a facade take

A transport knows a facade by its methods: each has a name, belongs to one
metric, and takes a value for each label of it. The label may be closed, so that
only the members of one set may be given, free, so that anything may be given
and its text is the label, or a peer address.

The facade goes by events instead. **The two are one**: with as many values as a
method has parameters, a call is an event of the metric of the method, and where
the event has its labels from is what the parameters say (`Method.exists_event`).
What is refused of it is a value outside the set of its parameter, and a value that
cannot be written where its text is the label. The two meet: a report of the former
shows the literal of the value, and if that cannot be written, this is what is
reported (`Facade.misfit?_sources`).
-/

namespace QuicTelemetry

/-! ## Methods -/

/-- **What a parameter takes.** -/
inductive Parameter where
  /-- The members of a set. -/
  | closed (dimension : Dimension)
  /-- Anything, for its text. -/
  | free
  /-- Anything, for the network of the peer it names, if it names one. -/
  | peer
  deriving DecidableEq, Repr

namespace Parameter

/-- **Whether a parameter takes a value.** -/
def Takes : Parameter → Value → Prop
  | .closed dimension, v => ∃ l ∈ dimension.members, v = .label l
  | .free, _ | .peer, _ => True

/-- **Whether what a parameter needs of a value can be written**: its literal, where
the value is reported to be outside the set, and its text, where that is the
label. -/
def Writes (limits : Limits) : Parameter → Value → Prop
  | .closed dimension, v => (∃ l ∈ dimension.members, v = .label l) ∨ v.Writes limits .literal
  | .free, v => v.Writes limits .text
  | .peer, _ => True

/-- Whether a label may have a text: a closed one has the text of a member of its
set. -/
def Admits : Parameter → String → Prop
  | .closed dimension, text => text ∈ dimension.texts
  | .free, _ | .peer, _ => True

/-- The set of a closed parameter. -/
def dimension? : Parameter → Option Dimension
  | .closed dimension => some dimension
  | .free | .peer => none

theorem eq_closed_of_dimension? {parameter : Parameter} {dimension : Dimension}
    (h : parameter.dimension? = some dimension) : parameter = .closed dimension := by
  cases parameter <;> cases h
  rfl

/-- Where the value of a label comes from. -/
def source : Parameter → Value → LabelSource
  | .closed dimension => .closed dimension
  | .free => .free
  | .peer => .peer

end Parameter

/-- **A method of a facade.** -/
structure Method where
  /-- Its name. -/
  name : String
  /-- The metric it belongs to. -/
  metric : Metric
  /-- What it takes, by the names of the labels. -/
  parameters : List (String × Parameter) := []

namespace Method

/-- The methods without parameters. -/
def plain : List Method :=
  [⟨"connections_in_memory", Catalogue.connectionsInMemory, []⟩,
   ⟨"maximum_writable_streams", Catalogue.maximumWritableStreams, []⟩,
   ⟨"accepted_initial_packet_count", Catalogue.acceptedInitialPacketCount, []⟩,
   ⟨"udp_drop_count", Catalogue.udpDropCount, []⟩,
   ⟨"utilized_bandwidth", Catalogue.utilizedBandwidth, []⟩,
   ⟨"max_bandwidth_mbps", Catalogue.maxBandwidthMbps, []⟩,
   ⟨"max_loss_pct", Catalogue.maxLossPct, []⟩]

/-- The methods with one parameter. -/
def unary : List Method :=
  [⟨"handshake_time_seconds", Catalogue.handshakeTimeSeconds, [("stage", .closed .handshakeStage)]⟩,
   ⟨"failed_handshakes", Catalogue.failedHandshakes, [("reason", .closed .handshakeError)]⟩,
   ⟨"write_errors", Catalogue.writeErrors, [("reason", .closed .writeError)]⟩,
   ⟨"invalid_cid_packet_count", Catalogue.invalidCidPacketCount, [("reason", .free)]⟩,
   ⟨"expensive_accepted_initial_packet_count", Catalogue.expensiveAcceptedInitialPacketCount,
    [("peer_ip", .peer)]⟩,
   ⟨"rejected_initial_packet_count", Catalogue.rejectedInitialPacketCount,
    [("reason", .closed .initialPacketError)]⟩,
   ⟨"local_h3_conn_close_error_count", Catalogue.localH3ConnCloseErrorCount,
    [("reason", .closed .http3Error)]⟩,
   ⟨"local_quic_conn_close_error_count", Catalogue.localQuicConnCloseErrorCount,
    [("reason", .closed .transportError)]⟩,
   ⟨"peer_h3_conn_close_error_count", Catalogue.peerH3ConnCloseErrorCount,
    [("reason", .closed .http3Error)]⟩,
   ⟨"peer_quic_conn_close_error_count", Catalogue.peerQuicConnCloseErrorCount,
    [("reason", .closed .transportError)]⟩,
   ⟨"runtime_task_schedule_delay_histogram", Catalogue.taskScheduleDelaySeconds,
    [("task", .free)]⟩,
   ⟨"runtime_task_poll_duration_histogram", Catalogue.taskPollDurationSeconds, [("task", .free)]⟩,
   ⟨"runtime_task_total_poll_time_micros", Catalogue.taskTotalPollTimeMicros, [("task", .free)]⟩]

/-- The one method with two parameters. -/
def binary : Method :=
  ⟨"expensive_rejected_initial_packet_count", Catalogue.expensiveRejectedInitialPacketCount,
    [("reason", .closed .initialPacketError), ("peer_ip", .peer)]⟩

/-- **The methods of a facade.** -/
def all : List Method := plain ++ unary ++ [binary]

/-- **Whether a method takes some values**: each parameter takes its own. -/
def Takes (method : Method) (args : List Value) : Prop :=
  ∀ entry ∈ method.parameters.zip args, entry.1.2.Takes entry.2

/-- Whether what a method needs of some values can be written: each parameter is
given what it can write. -/
def Writes (limits : Limits) (method : Method) (args : List Value) : Prop :=
  ∀ entry ∈ method.parameters.zip args, entry.1.2.Writes limits entry.2

/-- Where the labels of a call come from, by their names. -/
def sources (method : Method) (args : List Value) : List (String × LabelSource) :=
  (method.parameters.zip args).map fun entry => (entry.1.1, entry.1.2.source entry.2)

/-! ## Calls of methods -/

/-- **A call of the method is an event** of its metric, with the labels from where
the parameters say. -/
def Reports (method : Method) (args : List Value) : Prop :=
  ∃ event, Event.ofCall method.name args = .ok event ∧ event.metric = method.metric
    ∧ event.sources = method.sources args

theorem reports_plain : ∀ method ∈ plain, method.parameters.length = 0 ∧ method.Reports [] := by
  unfold plain
  simp only [List.forall_mem_cons, List.not_mem_nil, IsEmpty.forall_iff, implies_true, and_true]
  refine ⟨?_, ?_, ?_, ?_, ?_, ?_, ?_⟩ <;> exact ⟨rfl, _, rfl, rfl, rfl⟩

theorem reports_unary :
    ∀ method ∈ unary, method.parameters.length = 1 ∧ ∀ v, method.Reports [v] := by
  unfold unary
  simp only [List.forall_mem_cons, List.not_mem_nil, IsEmpty.forall_iff, implies_true, and_true]
  refine ⟨?_, ?_, ?_, ?_, ?_, ?_, ?_, ?_, ?_, ?_, ?_, ?_, ?_⟩ <;>
    exact ⟨rfl, fun v => ⟨_, rfl, rfl, rfl⟩⟩

theorem reports_binary (v peer : Value) : binary.Reports [v, peer] := ⟨_, rfl, rfl, rfl⟩

/-- **Every call of a method is an event**, given one value for each
parameter. -/
theorem exists_event {method : Method} (h : method ∈ all) {args : List Value}
    (hlength : args.length = method.parameters.length) : method.Reports args := by
  rcases List.mem_append.mp h with hmem | hbinary
  · rcases List.mem_append.mp hmem with hplain | hunary
    · obtain ⟨hnone, hreports⟩ := reports_plain method hplain
      obtain rfl := List.eq_nil_of_length_eq_zero (hlength.trans hnone)
      exact hreports
    · obtain ⟨hone, hreports⟩ := reports_unary method hunary
      obtain ⟨v, rfl⟩ := List.length_eq_one_iff.mp (hlength.trans hone)
      exact hreports v
  · obtain rfl := List.mem_singleton.mp hbinary
    obtain ⟨v, peer, rfl⟩ := List.length_eq_two.mp hlength
    exact reports_binary v peer

/-- **Every event is reported by a method** of its metric. -/
theorem exists_of_event (event : Event) :
    ∃ method ∈ all, method.metric = event.metric
      ∧ event.call.args.length = method.parameters.length
      ∧ event.sources = method.sources event.call.args := by
  have hfind : ∃ method, all.find? (fun method => method.name == event.call.method) = some method
      ∧ method.metric = event.metric ∧ event.call.args.length = method.parameters.length
      ∧ event.sources = method.sources event.call.args := by
    cases event <;> exact ⟨_, rfl, rfl, rfl, rfl⟩
  obtain ⟨method, hmethod, hrest⟩ := hfind
  exact ⟨method, List.mem_of_find?_eq_some hmethod, hrest⟩

theorem nodup_metrics : (all.map fun method => method.metric.name).Nodup := by decide

/-- A metric has one method. -/
theorem eq_of_metric {method method' : Method} (h : method ∈ all) (h' : method' ∈ all)
    (hmetric : method.metric = method'.metric) : method = method' :=
  List.inj_on_of_nodup_map nodup_metrics h h' (congrArg Metric.name hmetric)

theorem metric_mem_all : ∀ method ∈ all, method.metric ∈ Catalogue.all := by
  simp [all, plain, unary, binary, Catalogue.all, Catalogue.connection, Catalogue.task]

/-- Every metric has a method. -/
theorem exists_of_metric : ∀ metric ∈ Catalogue.all, ∃ method ∈ all, method.metric = metric := by
  simp [all, plain, unary, binary, Catalogue.all, Catalogue.connection, Catalogue.task]

/-- The parameters are for the labels of the metric. -/
theorem map_fst_parameters : ∀ method ∈ all, method.parameters.map Prod.fst = method.metric.labels := by
  decide

/-- The stages and reasons of a metric are closed, but for the reasons of packets
whose connection cannot be told. -/
theorem exists_closed {metric : Metric} (hmetric : metric ∈ Catalogue.all)
    (hname : metric.name ≠ "quic_invalid_cid_packet_count") {label : String}
    (hlabel : label ∈ ["stage", "reason"]) (hmem : label ∈ metric.labels) :
    ∃ method ∈ Method.all, ∃ dimension, method.metric = metric
      ∧ (label, .closed dimension) ∈ method.parameters := by
  have hclosed : ∀ method ∈ Method.all, method.metric.name ≠ "quic_invalid_cid_packet_count" →
      ∀ entry ∈ method.parameters, entry.1 ∈ ["stage", "reason"] →
        entry.2.dimension?.isSome = true := by
    decide +kernel
  obtain ⟨method, hmethod, rfl⟩ := Method.exists_of_metric metric hmetric
  rw [← Method.map_fst_parameters method hmethod] at hmem
  obtain ⟨⟨name, parameter⟩, hentry, rfl⟩ := List.mem_map.mp hmem
  obtain ⟨dimension, hdimension⟩ :=
    Option.isSome_iff_exists.mp (hclosed method hmethod hname _ hentry hlabel)
  obtain rfl := Parameter.eq_closed_of_dimension? hdimension
  exact ⟨method, hmethod, dimension, rfl, hentry⟩

/-- Every parameter of a method but the first is for a peer. -/
theorem peer_of_mem_tail :
    ∀ method ∈ all, ∀ entry ∈ method.parameters.tail, entry.2 = .peer := by
  decide

end Method

/-! ## What is refused -/

theorem Label.dimension_of_mem {l : Label} {dimension : Dimension} (h : l ∈ dimension.members) :
    l.dimension = dimension := by
  cases dimension <;> obtain ⟨member, -, rfl⟩ := List.mem_map.mp h <;> rfl

/-- A closed parameter takes the labels of its set. -/
theorem Parameter.takes_label {dimension : Dimension} {l : Label} :
    (closed dimension).Takes (.label l) ↔ l.dimension = dimension := by
  constructor
  · rintro ⟨l', hmem, heq⟩
    cases heq
    exact Label.dimension_of_mem hmem
  · rintro rfl
    exact ⟨l, l.mem_members, rfl⟩

namespace Facade

variable (limits : Limits)

/-- A value outside a set is reported as one, if its literal can be written. -/
theorem refusal_eq (dimension : Dimension) (v : Value) :
    (v.Writes limits .literal ∧ refusal limits dimension v = .notInDimension dimension v)
      ∨ (¬ v.Writes limits .literal
        ∧ ∃ obstacle, refusal limits dimension v = .unwritable obstacle) := by
  unfold refusal
  cases hobstacle : v.obstacle? limits.digits .literal limits.depth with
  | none => exact .inl ⟨Value.obstacle?_eq_none_iff.mp hobstacle, rfl⟩
  | some obstacle =>
    refine .inr ⟨fun hwrites => ?_, obstacle, rfl⟩
    exact nomatch hobstacle.symm.trans (Value.obstacle?_eq_none_iff.mpr hwrites)

/-- **What comes of the first value** of some: it has a label, and the others
decide; or it is outside its set; or it cannot be written. -/
theorem misfit?_cons (name : String) (parameter : Parameter) (v : Value)
    (rest : List (String × LabelSource)) :
    (parameter.Takes v ∧ parameter.Writes limits v
        ∧ misfit? ((name, parameter.source v) :: rest) limits = misfit? rest limits)
      ∨ (¬ parameter.Takes v ∧ parameter.Writes limits v ∧ ∃ dimension,
        misfit? ((name, parameter.source v) :: rest) limits = some (.notInDimension dimension v))
      ∨ (¬ parameter.Writes limits v ∧ ∃ obstacle,
        misfit? ((name, parameter.source v) :: rest) limits = some (.unwritable obstacle)) := by
  cases parameter with
  | peer => exact .inl ⟨trivial, trivial, rfl⟩
  | free =>
    cases hobstacle : v.obstacle? limits.digits .text limits.depth with
    | none =>
      refine .inl ⟨trivial, Value.obstacle?_eq_none_iff.mp hobstacle, ?_⟩
      simp only [misfit?, Parameter.source, List.findSome?_cons, hobstacle, Option.map_none]
    | some obstacle =>
      refine .inr (.inr ⟨fun hwrites => ?_, obstacle, ?_⟩)
      · exact nomatch hobstacle.symm.trans (Value.obstacle?_eq_none_iff.mpr hwrites)
      · simp only [misfit?, Parameter.source, List.findSome?_cons, hobstacle, Option.map_some]
  | closed dimension =>
    by_cases htakes : (Parameter.closed dimension).Takes v
    · obtain ⟨l, hl, rfl⟩ := htakes
      refine .inl ⟨⟨l, hl, rfl⟩, .inl ⟨l, hl, rfl⟩, ?_⟩
      simp only [misfit?, Parameter.source, List.findSome?_cons, Label.dimension_of_mem hl, if_true]
    · have hrefused : misfit? ((name, Parameter.source (.closed dimension) v) :: rest) limits
          = some (refusal limits dimension v) := by
        cases v with
        | label l =>
          have hother : l.dimension ≠ dimension := fun h => htakes (Parameter.takes_label.mpr h)
          simp only [misfit?, Parameter.source, List.findSome?_cons, if_neg hother]
        | _ => rfl
      rw [hrefused]
      rcases refusal_eq limits dimension v with ⟨hwrites, heq⟩ | ⟨hnot, obstacle, heq⟩
      · exact .inr (.inl ⟨htakes, .inr hwrites, dimension, congrArg some heq⟩)
      · refine .inr (.inr ⟨?_, obstacle, congrArg some heq⟩)
        rintro (htaken | hwrites)
        · exact htakes htaken
        · exact hnot hwrites

/-- Peers are never refused. -/
theorem misfit?_peers {entries : List ((String × Parameter) × Value)}
    (h : ∀ entry ∈ entries, entry.1.2 = .peer) :
    misfit? (entries.map fun entry => (entry.1.1, entry.1.2.source entry.2)) limits = none := by
  refine List.findSome?_eq_none_iff.mpr fun source hsource => ?_
  obtain ⟨entry, hentry, rfl⟩ := List.mem_map.mp hsource
  rw [h entry hentry]
  rfl

/-- **What is refused of a call** is a value that its parameter does not take, as a
value of a wrong kind if it can be written, and a value that cannot be written;
where every parameter takes its own and can write it, nothing is. -/
theorem misfit?_sources {method : Method} (hmethod : method ∈ Method.all) (args : List Value) :
    (method.Takes args ∧ method.Writes limits args ∧ misfit? (method.sources args) limits = none)
      ∨ (¬ method.Takes args ∧ method.Writes limits args ∧ ∃ dimension v,
        misfit? (method.sources args) limits = some (.notInDimension dimension v))
      ∨ (¬ method.Writes limits args ∧ ∃ obstacle,
        misfit? (method.sources args) limits = some (.unwritable obstacle)) := by
  have hpeers := Method.peer_of_mem_tail method hmethod
  unfold Method.Takes Method.Writes Method.sources
  -- all parameters but the first are peers, so the first value decides
  cases hparameters : method.parameters with
  | nil => exact .inl ⟨nofun, nofun, rfl⟩
  | cons parameter parameters =>
    cases args with
    | nil => exact .inl ⟨nofun, nofun, rfl⟩
    | cons v args =>
      have hrest : ∀ entry ∈ parameters.zip args, entry.1.2 = .peer := by
        intro entry hentry
        refine hpeers entry.1 ?_
        rw [hparameters]
        exact (List.of_mem_zip hentry).1
      have htaken : ∀ entry ∈ parameters.zip args, entry.1.2.Takes entry.2 :=
        fun entry hentry => by rw [hrest entry hentry]; trivial
      have hwritten : ∀ entry ∈ parameters.zip args, entry.1.2.Writes limits entry.2 :=
        fun entry hentry => by rw [hrest entry hentry]; trivial
      simp only [List.zip_cons_cons, List.forall_mem_cons, List.map_cons]
      rcases misfit?_cons limits parameter.1 parameter.2 v
          ((parameters.zip args).map fun entry => (entry.1.1, entry.1.2.source entry.2)) with
        ⟨htakes, hwrites, heq⟩ | ⟨hnot, hwrites, dimension, heq⟩ | ⟨hnot, obstacle, heq⟩
      · exact .inl ⟨⟨htakes, htaken⟩, ⟨hwrites, hwritten⟩, heq.trans (misfit?_peers limits hrest)⟩
      · exact .inr (.inl ⟨fun h => hnot h.1, ⟨hwrites, hwritten⟩, dimension, v, heq⟩)
      · exact .inr (.inr ⟨fun h => hnot h.1, obstacle, heq⟩)

end Facade

/-! ## What labels become -/

/-- What a parameter takes becomes a text that its label may have. -/
theorem Parameter.admits_text? {parameter : Parameter} {v : Value} (h : parameter.Takes v)
    {text : String} (htext : (parameter.source v).text? = some text) : parameter.Admits text := by
  cases parameter with
  | free | peer => exact trivial
  | closed dimension =>
    obtain ⟨l, hl, rfl⟩ := h
    cases htext
    exact List.mem_map_of_mem hl

/-- **A call that is taken** has texts its labels may have. -/
theorem Method.admits_texts? {method : Method} {args : List Value} (h : method.Takes args)
    (hlength : args.length = method.parameters.length) {texts : List String}
    (htexts : LabelSource.texts? (method.sources args) = some texts) :
    List.Forall₂ (fun parameter text => parameter.2.Admits text) method.parameters texts := by
  unfold Takes at h
  unfold sources at htexts
  generalize method.parameters = parameters at h hlength htexts
  induction parameters generalizing args texts with
  | nil =>
    cases htexts
    exact .nil
  | cons parameter parameters ih =>
    cases args with
    | nil => exact absurd hlength.symm (Nat.succ_ne_zero _)
    | cons v args =>
      rw [List.zip_cons_cons, List.forall_mem_cons] at h
      rw [List.zip_cons_cons, List.map_cons, LabelSource.texts?, List.mapM_cons] at htexts
      obtain ⟨text, htext, htexts⟩ := Option.bind_eq_some_iff.mp htexts
      obtain ⟨rest, hrest, heq⟩ := Option.bind_eq_some_iff.mp htexts
      cases heq
      exact .cons (Parameter.admits_text? h.1 htext) (ih h.2 (Nat.succ.inj hlength) hrest)

/-- **An event that is not refused** has texts the labels of its method may
have. -/
theorem Event.admits_texts? {event : Event} (hmisfit : Facade.misfit? event.sources = none)
    {texts : List String} (htexts : LabelSource.texts? event.sources = some texts) {method : Method}
    (hmethod : method ∈ Method.all) (hmetric : method.metric = event.metric) :
    List.Forall₂ (fun parameter text => parameter.2.Admits text) method.parameters texts := by
  obtain ⟨reporting, hreporting, hown, hlength, hsources⟩ := Method.exists_of_event event
  obtain rfl := Method.eq_of_metric hreporting hmethod (hown.trans hmetric.symm)
  rw [hsources] at hmisfit htexts
  rcases Facade.misfit?_sources .standard hreporting event.call.args with
    ⟨htakes, -⟩ | ⟨-, -, dimension, v, hfault⟩ | ⟨-, obstacle, hfault⟩
  · exact Method.admits_texts? htakes hlength htexts
  · exact nomatch hmisfit.symm.trans hfault
  · exact nomatch hmisfit.symm.trans hfault

end QuicTelemetry
