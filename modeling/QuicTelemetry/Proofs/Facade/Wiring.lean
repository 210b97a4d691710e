import Mathlib.Data.List.Nodup
import QuicTelemetry.Facade
import QuicTelemetry.Proofs.Lists
import QuicTelemetry.Proofs.Store.Series

/-!
# Which series a call belongs to

A transport calls the methods of a facade by name. The series of a call can be
told without the facade, from the catalogue alone: the metric is the one with
the name of the method, and each of its labels has the text of the argument in
its place. `Call.series?` says so. It shares nothing with `Event.metric` and
`Event.sources`, which name a metric and a label for every event by hand.

That **the two come to the same** (`Call.series?_of_event`) is the point: a
method that belonged to the metric of its neighbour, or gave its labels in
another order, would have another series here.
-/

namespace QuicTelemetry

/-- **A call of a method** of the facade. -/
structure Call where
  /-- The name of the method. -/
  method : String
  /-- The arguments. -/
  args : List Value

namespace Call

/-- The name of the metric a method is for. The metrics of tasks keep the
method's name, but a histogram is named for its unit there; all others are
prefixed. -/
def metricName (method : String) : String :=
  if method.startsWith "runtime_" then
    match method.dropSuffix? "_histogram" with
    | some stem => stem.toString ++ "_seconds"
    | none => method
  else "quic_" ++ method

/-- The metric a call is for. -/
def metric? (call : Call) : Option Metric := Catalogue.find? (metricName call.method)

/-- What a label of a value is: the network of a peer, and what any other value
is written as. -/
def labelText? (label : String) (v : Value) : Option String :=
  if label = "peer_ip" then v.peerLabel? else some v.toText

/-- The label values of a call, by the labels of a metric. -/
def values? (call : Call) (metric : Metric) : Option (List String) :=
  (metric.labels.zip call.args).mapM fun (label, v) => labelText? label v

/-- **The series a call belongs to**: none if its metric is off, or if the peer
has no network. -/
def series? (flags : Flags) (space : Option String) (call : Call) : Option SeriesId := do
  let metric ← call.metric?
  if flags.permits metric.flag then
    (call.values? metric).map fun values => ⟨qualify space metric.name, values⟩
  else none

end Call

/-! ## The catalogue -/

/-- What is true of some characters is true of those of their text. With the characters
of a literal, the literal is not decoded. -/
theorem Text.check_spelled (check : List Char → Bool) {cs : List Char} (h : check cs = true) :
    check (String.ofList cs).toList = true := by
  rw [String.toList_ofList]
  exact h

namespace Catalogue

theorem nodup_names : (all.map Metric.name).Nodup := by decide +kernel

/-- A metric of the catalogue is found by its name. -/
theorem find?_name {metric : Metric} (h : metric ∈ all) : find? metric.name = some metric := by
  have hsome : (find? metric.name).isSome = true :=
    List.find?_isSome.mpr ⟨metric, h, beq_self_eq_true _⟩
  obtain ⟨found, hfound⟩ := Option.isSome_iff_exists.mp hsome
  have hname : found.name = metric.name := by simpa using List.find?_some hfound
  rw [hfound, List.inj_on_of_nodup_map nodup_names (List.mem_of_find?_eq_some hfound) h hname]

end Catalogue

/-! ## Calls of events -/

/-- The text of a label, if it has one. -/
def LabelSource.text? : LabelSource → Option String
  | .closed _ v | .free v => some v.toText
  | .peer v => v.peerLabel?

/-- The texts of some labels, if each has one. -/
def LabelSource.texts? (sources : List (String × LabelSource)) : Option (List String) :=
  sources.mapM fun source => source.2.text?

namespace Event

/-- The call that reports an event. -/
def call : Event → Call
  | .connectionsInMemory => ⟨"connections_in_memory", []⟩
  | .maximumWritableStreams => ⟨"maximum_writable_streams", []⟩
  | .handshakeTime stage => ⟨"handshake_time_seconds", [stage]⟩
  | .failedHandshake reason => ⟨"failed_handshakes", [reason]⟩
  | .writeError reason => ⟨"write_errors", [reason]⟩
  | .invalidConnectionId reason => ⟨"invalid_cid_packet_count", [reason]⟩
  | .acceptedInitialPacket => ⟨"accepted_initial_packet_count", []⟩
  | .acceptedInitialPacketFrom peer => ⟨"expensive_accepted_initial_packet_count", [peer]⟩
  | .rejectedInitialPacket reason => ⟨"rejected_initial_packet_count", [reason]⟩
  | .rejectedInitialPacketFrom reason peer =>
    ⟨"expensive_rejected_initial_packet_count", [reason, peer]⟩
  | .datagramDrop => ⟨"udp_drop_count", []⟩
  | .utilizedBandwidth => ⟨"utilized_bandwidth", []⟩
  | .maxBandwidth => ⟨"max_bandwidth_mbps", []⟩
  | .maxLoss => ⟨"max_loss_pct", []⟩
  | .localHttp3Close reason => ⟨"local_h3_conn_close_error_count", [reason]⟩
  | .localTransportClose reason => ⟨"local_quic_conn_close_error_count", [reason]⟩
  | .peerHttp3Close reason => ⟨"peer_h3_conn_close_error_count", [reason]⟩
  | .peerTransportClose reason => ⟨"peer_quic_conn_close_error_count", [reason]⟩
  | .taskScheduleDelay task => ⟨"runtime_task_schedule_delay_histogram", [task]⟩
  | .taskPollDuration task => ⟨"runtime_task_poll_duration_histogram", [task]⟩
  | .taskPollTime task => ⟨"runtime_task_total_poll_time_micros", [task]⟩

/-- **A call by name stands for the event it reports.** -/
theorem call_of_ofCall {method : String} {args : List Value} {event : Event}
    (h : ofCall method args = .ok event) : event.call = ⟨method, args⟩ := by
  have hplain : ∀ entry ∈ plainNames, entry.2.call = ⟨entry.1, []⟩ := by
    simp [plainNames, Event.call]
  have hunary : ∀ entry ∈ unaryNames, ∀ v, (entry.2 v).call = ⟨entry.1, [v]⟩ := by
    simp [unaryNames, Event.call]
  unfold ofCall at h
  split at h
  · next hlookup =>
    cases h
    exact hplain _ (mem_of_lookup hlookup)
  · next v hlookup =>
    cases h
    exact hunary _ (mem_of_lookup hlookup) v
  · cases h
  · cases h
  · split at h
    · next hname =>
      split at h
      · cases h
        rw [hname]
        rfl
      · cases h
    · cases h

/-- The metric of an event has the name of its method. -/
theorem metricName_call (event : Event) : Call.metricName event.call.method = event.metric.name := by
  cases event <;> (dsimp only [call, metric]; decide +kernel)

theorem metric_mem_all (event : Event) : event.metric ∈ Catalogue.all := by
  cases event <;> simp [metric, Catalogue.all, Catalogue.connection, Catalogue.task]

/-- **The metric of an event is found** by its method. -/
theorem metric?_call (event : Event) : event.call.metric? = some event.metric := by
  unfold Call.metric?
  rw [metricName_call]
  exact Catalogue.find?_name event.metric_mem_all

/-- The label values of an event, by where its labels come from. -/
theorem values?_call (event : Event) :
    event.call.values? event.metric = LabelSource.texts? event.sources := by
  cases event <;> rfl

end Event

/-- The texts of some labels are one for each. -/
theorem LabelSource.length_of_texts? {sources : List (String × LabelSource)} {values : List String}
    (h : texts? sources = some values) : values.length = sources.length := by
  induction sources generalizing values with
  | nil =>
    cases h
    rfl
  | cons source sources ih =>
    unfold texts? at h ih
    rw [List.mapM_cons] at h
    obtain ⟨text, -, h⟩ := Option.bind_eq_some_iff.mp h
    obtain ⟨rest, hrest, h⟩ := Option.bind_eq_some_iff.mp h
    cases h
    rw [List.length_cons, List.length_cons, ih hrest]

theorem Event.length_of_texts? {event : Event} {values : List String}
    (h : LabelSource.texts? event.sources = some values) :
    values.length = event.metric.labels.length := by
  rw [LabelSource.length_of_texts? h, ← event.map_fst_sources, List.length_map]

namespace Facade

/-- A label in front of others: its text, or no labels at all. -/
theorem labelling_cons (name : String) (source : LabelSource)
    (rest : List (String × LabelSource)) :
    match source.text? with
    | some text =>
      labelling ((name, source) :: rest) = (labelling rest).map ((name, .text text) :: ·)
    | none => ∃ peer, labelling ((name, source) :: rest) = .error peer := by
  cases source with
  | closed dimension v => rfl
  | free v => rfl
  | peer v =>
    show match v.peerLabel? with | some text => _ | none => _
    cases hlabel : v.peerLabel? with
    | some text =>
      simp only [labelling, hlabel]
    | none => exact ⟨v, by simp only [labelling, hlabel]⟩

/-- **The labels of an event** are the texts where they come from, and there
are none if one of them has no text. -/
theorem labelling_eq (sources : List (String × LabelSource)) :
    match LabelSource.texts? sources with
    | some values => labelling sources = .ok (.of (sources.map Prod.fst) values)
    | none => ∃ peer, labelling sources = .error peer := by
  induction sources with
  | nil => rfl
  | cons head rest ih =>
    obtain ⟨name, source⟩ := head
    have hcons := labelling_cons name source rest
    unfold LabelSource.texts? at ih ⊢
    rw [List.mapM_cons]
    dsimp only
    cases htext : source.text? with
    | none =>
      rw [htext] at hcons
      exact hcons
    | some text =>
      rw [htext] at hcons
      cases hrest : rest.mapM fun source => source.2.text? with
      | none =>
        rw [hrest] at ih
        obtain ⟨peer, ih⟩ := ih
        exact ⟨peer, by rw [hcons, ih]; rfl⟩
      | some values =>
        rw [hrest] at ih
        show labelling ((name, source) :: rest) = _
        rw [hcons, ih]
        rfl

end Facade

/-- **The series of a call is that of its event**: the labels are where the
event has them from. -/
theorem Call.series?_of_event {method : String} {args : List Value} {event : Event}
    (h : Event.ofCall method args = .ok event) (flags : Flags) (space : Option String) :
    (⟨method, args⟩ : Call).series? flags space
      = if flags.permits event.metric.flag then
          (LabelSource.texts? event.sources).map fun values =>
            ⟨qualify space event.metric.name, values⟩
        else none := by
  rw [← Event.call_of_ofCall h]
  unfold series?
  rw [event.metric?_call, ← event.values?_call]
  rfl

/-- Whether nothing is measured of a call for a metric: the metric is off, or the
peer has no network. -/
def Call.IsDropped (flags : Flags) (call : Call) (metric : Metric) : Prop :=
  flags.permits metric.flag = false
    ∨ ∃ peer, ("peer_ip", peer) ∈ metric.labels.zip call.args ∧ peer.peerLabel? = none

/-- **A call belongs to a series**, unless nothing is measured of it. -/
theorem Call.series?_eq_none_iff {call : Call} {metric : Metric} (h : call.metric? = some metric)
    (flags : Flags) (space : Option String) :
    call.series? flags space = none ↔ call.IsDropped flags metric := by
  have hvalues : call.values? metric = none
      ↔ ∃ peer, ("peer_ip", peer) ∈ metric.labels.zip call.args ∧ peer.peerLabel? = none := by
    unfold values?
    rw [mapM_eq_none_iff]
    constructor
    · rintro ⟨⟨label, v⟩, hmem, hnone⟩
      have htext : labelText? label v = none := hnone
      unfold labelText? at htext
      split at htext
      · next heq =>
        subst heq
        exact ⟨v, hmem, htext⟩
      · cases htext
    · rintro ⟨peer, hmem, hnone⟩
      exact ⟨_, hmem, hnone⟩
  unfold series? IsDropped
  rw [h, ← hvalues, Option.bind_eq_bind, Option.bind_some]
  cases flags.permits metric.flag <;> simp

end QuicTelemetry
