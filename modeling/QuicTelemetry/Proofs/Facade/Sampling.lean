import Mathlib.Data.List.Forall2
import Mathlib.Data.List.Induction
import QuicTelemetry.Proofs.Facade.Wiring
import QuicTelemetry.Proofs.Log.Context

/-!
# What a facade logs of the peers it drops

A facade that is called logs one thing only: that a peer could not be reduced. Such a
drop comes at any rate a sender likes, so not every one is logged, and the address,
which the sender chose, is in none of the records.

Which drops are logged is a law about the whole past of a facade, and about nothing
in it but the number of drops of the same metric. What happens at a call is one
equation (`Facade.serve_of_drop`), in which the peer occurs with its kind only. What a
facade has counted after any calls is the invariant (`Facade.HasCounted`), and the law
follows from the two: **the drop of a number is logged if the number is one or a
multiple of 1024**, and the records of two runs that differ in peers of one kind are
the same (`Facade.drops_sampled`).
-/

namespace QuicTelemetry

/-! ## Drops -/

/-- **A drop**: the metric that misses something, and the peer that could not be
reduced. -/
structure Drop where
  /-- The name of the metric. -/
  metric : String
  /-- The peer. -/
  peer : Value

/-- The drop of a metric if a peer cannot be reduced. -/
def Drop.of? (metric : Metric) (peer : Value) : Option Drop :=
  if peer.peerLabel?.isNone then some ⟨metric.name, peer⟩ else none

/-- The names of the metrics that have a label for the peer. -/
def Drop.metrics : List String :=
  [Catalogue.expensiveAcceptedInitialPacketCount.name,
    Catalogue.expensiveRejectedInitialPacketCount.name]

/-- **The drop that an event is.** An event of a metric with a label for the peer is
one if the peer cannot be reduced; a packet that was rejected for a reason outside the
set is refused and not dropped. -/
def Event.drop? : Event → Option Drop
  | .acceptedInitialPacketFrom peer =>
    Drop.of? Catalogue.expensiveAcceptedInitialPacketCount peer
  | .rejectedInitialPacketFrom (.label l) peer =>
    if l.dimension = .initialPacketError then
      Drop.of? Catalogue.expensiveRejectedInitialPacketCount peer
    else none
  | _ => none

/-- The drop that a call is, if it is one. -/
def Call.drop? (call : Call) : Option Drop :=
  match Event.ofCall call.method call.args with
  | .ok event => event.drop?
  | .error _ => none

theorem Call.drop?_of_event {call : Call} {event : Event}
    (h : Event.ofCall call.method call.args = .ok event) : call.drop? = event.drop? := by
  unfold drop?
  rw [h]

theorem Call.exists_of_drop? {call : Call} {drop : Drop} (h : call.drop? = some drop) :
    ∃ event, Event.ofCall call.method call.args = .ok event ∧ event.drop? = some drop := by
  unfold drop? at h
  split at h
  · next event hevent => exact ⟨event, hevent, h⟩
  · cases h

namespace Event

variable {event : Event} {drop : Drop}

theorem eq_of_dropOf? {metric : Metric} {peer : Value} (h : Drop.of? metric peer = some drop) :
    peer.peerLabel? = none ∧ drop = ⟨metric.name, peer⟩ := by
  unfold Drop.of? at h
  split at h
  · next hnone =>
    cases h
    exact ⟨by simpa using hnone, rfl⟩
  · cases h

/-- **The two kinds of drop.** -/
theorem eq_of_drop? (h : event.drop? = some drop) :
    (∃ peer, event = .acceptedInitialPacketFrom peer ∧ peer.peerLabel? = none
      ∧ drop = ⟨Catalogue.expensiveAcceptedInitialPacketCount.name, peer⟩)
    ∨ ∃ l peer, event = .rejectedInitialPacketFrom (.label l) peer
      ∧ l.dimension = .initialPacketError ∧ peer.peerLabel? = none
      ∧ drop = ⟨Catalogue.expensiveRejectedInitialPacketCount.name, peer⟩ := by
  unfold drop? at h
  split at h
  · exact .inl ⟨_, rfl, eq_of_dropOf? h⟩
  · split at h
    · next hdimension => exact .inr ⟨_, _, rfl, hdimension, eq_of_dropOf? h⟩
    · cases h
  · cases h

/-- Only the metrics with a label for the peer miss something. -/
theorem metric_mem_of_drop? (h : event.drop? = some drop) : drop.metric ∈ Drop.metrics := by
  rcases eq_of_drop? h with ⟨peer, -, -, rfl⟩ | ⟨l, peer, -, -, -, rfl⟩
  · exact List.mem_cons_self
  · exact List.mem_cons_of_mem _ List.mem_cons_self

/-- **An event that is no drop** has all its labels, or is refused. -/
theorem labelling_of_drop?_eq_none (h : event.drop? = none)
    (hmisfit : Facade.misfit? event.sources = none) :
    ∃ labels, Facade.labelling event.sources = .ok labels := by
  have hpeer {metric : Metric} {peer : Value} (h : Drop.of? metric peer = none) :
      ∃ label, peer.peerLabel? = some label := by
    unfold Drop.of? at h
    split at h
    · cases h
    · next hsome => exact Option.ne_none_iff_exists'.mp (by simpa using hsome)
  cases event with
  | acceptedInitialPacketFrom peer =>
    obtain ⟨label, hlabel⟩ := hpeer h
    exact ⟨_, by simp only [sources, Facade.labelling, hlabel]; rfl⟩
  | rejectedInitialPacketFrom reason peer =>
    cases reason with
    | label l =>
      have hdimension : l.dimension = .initialPacketError := by
        by_contra hne
        simp [Facade.misfit?, sources, hne] at hmisfit
      simp only [drop?, if_pos hdimension] at h
      obtain ⟨label, hlabel⟩ := hpeer h
      exact ⟨_, by simp only [sources, Facade.labelling, hlabel]; rfl⟩
    | _ => simp [Facade.misfit?, sources] at hmisfit
  | _ => exact ⟨_, rfl⟩

end Event

/-! ## Records -/

/-- The event that a record is about. -/
def LogRecord.event? (r : LogRecord) : Option Value :=
  match r.content with
  | .plain event _ => some (.text event)
  | .structured entries => entries.get? "event"

/-- Whether a record names a metric. -/
def LogRecord.names (r : LogRecord) (metric : String) : Bool :=
  match r.field? "metric" with
  | some (.text s) => s == metric
  | _ => false

/-- **The record of an unreducible peer**: what each of them is. -/
structure LogRecord.IsUnreducible (r : LogRecord) : Prop where
  /-- The logger. -/
  logger : r.logger = Facade.loggerName
  /-- The severity. -/
  severity : r.severity = .debug
  /-- The event. -/
  event : r.event? = some (.text "metrics.peer_ip.unreducible")

/-- **A record tells a drop by its number**: the metric, the kind of the peer and the
number. -/
structure LogRecord.Tells (r : LogRecord) (drop : Drop) (n : Nat) : Prop extends r.IsUnreducible where
  /-- The metric. -/
  metric : r.field? "metric" = some (.text drop.metric)
  /-- The kind of the peer. -/
  kind : r.field? "address_type" = some (.text drop.peer.kindName)
  /-- The number. -/
  dropped : r.field? "dropped" = some (.int n)

theorem LogRecord.Tells.names_iff {r : LogRecord} {drop : Drop} {n : Nat} (h : r.Tells drop n)
    (metric : String) : r.names metric = decide (drop.metric = metric) := by
  unfold names
  rw [h.metric]
  exact Bool.beq_eq_decide_eq ..

namespace Logging

/-- The names that a record has for its own, whichever logger made it. -/
def ownNames : List String :=
  ["event", "self", "method_name", "level", "timestamp", "exc_info", "exception"]

/-- **What a logger makes of an event that it lets through**: one record, with the
event and the fields of the call. -/
theorem exists_records {state : Logging} {logger : Logger} {severity : Severity}
    (hlets : threshold state.level logger.name ≤ severity.number) (event : String)
    {fields : List (String × Value)} (hnodup : (fields.map Prod.fst).Nodup)
    (hfree : ∀ entry ∈ fields, entry.1 ∉ ownNames) (stamp : String) :
    ∃ r, state.records stamp logger severity event fields = [r]
      ∧ r.logger = logger.name ∧ r.severity = severity ∧ r.event? = some (.text event)
      ∧ ∀ entry ∈ fields, r.field? entry.1 = some entry.2 := by
  have htaken : (fields.any fun entry => (takenNames logger.structured).contains entry.1) = false := by
    rw [List.any_eq_false]
    intro entry hentry hmem
    have hsub : takenNames logger.structured ⊆ ownNames := by
      cases logger.structured <;> decide
    exact hfree entry hentry (hsub (by simpa using hmem))
  unfold records record
  rw [htaken, if_neg Bool.false_ne_true]
  cases logger.structured with
  | true =>
    rw [if_pos rfl, if_pos hlets]
    refine ⟨_, rfl, rfl, rfl, ?_, fun entry hentry => ?_⟩
    · show (describeException _).get? "event" = _
      rw [get?_describeException (by decide)]
      exact Fields.get?_update_of_mem (by simp) List.mem_cons_self _
    · have hnot := hfree entry hentry
      show (describeException _).get? entry.1 = _
      have hown : ∀ name ∈ ["event", "level", "timestamp"], name ≠ entry.1 := by
        rintro name hname rfl
        exact hnot ((by decide : ["event", "level", "timestamp"] ⊆ ownNames) hname)
      rw [get?_describeException (by simp_all [ownNames]), Fields.get?_update_of_forall_ne
        (by simpa using hown), Fields.get?_update_of_mem hnodup hentry]
  | false =>
    rw [if_neg Bool.false_ne_true, Logger.plainRecord?, if_pos hlets]
    exact ⟨_, rfl, rfl, rfl, rfl, fun entry hentry => Fields.get?_update_of_mem hnodup hentry _⟩

/-- What a logger makes of an event that it does not let through. -/
theorem records_eq_nil {state : Logging} {logger : Logger} {severity : Severity}
    (hlets : ¬ threshold state.level logger.name ≤ severity.number) (event : String)
    (fields : List (String × Value)) (stamp : String) :
    state.records stamp logger severity event fields = [] := by
  unfold records record Logger.plainRecord?
  simp only [if_neg hlets]
  split
  · next heq =>
    split at heq
    · cases heq
    · split at heq <;> cases heq
  · rfl

end Logging

/-! ## Calls as they are made -/

/-- **A call as it is made**, and how things stand then. The store may be in
any state by then, and the logging too. -/
structure PlacedCall where
  /-- The logging. -/
  logging : Logging
  /-- The time, for the records. -/
  stamp : String
  /-- The store. -/
  store : Store
  /-- The call. -/
  call : Call

namespace PlacedCall

/-- Whether the records of facades are let through that are for those who look
closely. -/
def letsDebug (o : PlacedCall) : Bool :=
  decide (threshold o.logging.level Facade.loggerName ≤ Severity.debug.number)

/-- **Calls that are alike**: they differ in nothing but the store and, where a
peer cannot be reduced, in the peer, which is of one kind in both. -/
structure Alike (o o' : PlacedCall) : Prop where
  /-- The logging. -/
  logging : o.logging = o'.logging
  /-- The time. -/
  stamp : o.stamp = o'.stamp
  /-- The call. -/
  call : o.call = o'.call ∨ ∃ drop drop', o.call.drop? = some drop ∧ o'.call.drop? = some drop'
    ∧ drop.metric = drop'.metric ∧ drop.peer.kindName = drop'.peer.kindName

/-- How many drops of a metric there are among some calls. -/
def dropsAmong (metric : String) (os : List PlacedCall) : Nat :=
  os.countP fun o => o.call.drop?.any fun drop => drop.metric == metric

/-- One call more is one drop more, or is not. -/
theorem dropsAmong_concat (metric : String) (os : List PlacedCall) (o : PlacedCall) :
    dropsAmong metric (os ++ [o])
      = dropsAmong metric os
        + if o.call.drop?.any (fun drop => drop.metric == metric) then 1 else 0 := by
  unfold dropsAmong
  rw [List.countP_append, List.countP_singleton]

end PlacedCall

namespace Facade

open PlacedCall

/-- What a facade does on a call: what is logged, and what becomes of the facade. A call
of a method that there is not does nothing. -/
def serve (facade : Facade) (o : PlacedCall) : List LogRecord × Facade :=
  match Event.ofCall o.call.method o.call.args with
  | .ok event =>
    (facade.reported o.store o.logging o.stamp event,
      (facade.report o.store o.logging o.stamp event).2.1)
  | .error _ => ([], facade)

theorem serve_of_event (facade : Facade) {o : PlacedCall} {event : Event}
    (h : Event.ofCall o.call.method o.call.args = .ok event) :
    facade.serve o = (facade.reported o.store o.logging o.stamp event,
      (facade.report o.store o.logging o.stamp event).2.1) := by
  unfold serve
  rw [h]

/-- What is logged on each of some calls. -/
def logged (facade : Facade) : List PlacedCall → List (List LogRecord)
  | [] => []
  | o :: rest => (facade.serve o).1 :: (facade.serve o).2.logged rest

/-- The facade after some calls. -/
def afterwards (facade : Facade) (os : List PlacedCall) : Facade :=
  os.foldl (fun facade o => (facade.serve o).2) facade

/-- What was logged before is logged, whatever comes then. -/
theorem logged_append (facade : Facade) (os rest : List PlacedCall) :
    facade.logged (os ++ rest) = facade.logged os ++ (facade.afterwards os).logged rest := by
  induction os generalizing facade with
  | nil => rfl
  | cons o os ih => exact congrArg (_ :: ·) (ih (facade.serve o).2)

theorem length_logged (facade : Facade) (os : List PlacedCall) :
    (facade.logged os).length = os.length := by
  induction os generalizing facade with
  | nil => rfl
  | cons o os ih => exact congrArg (· + 1) (ih (facade.serve o).2)

/-! ## One call -/

/-- Whether a facade has the metrics with a label for the peer. -/
def isExpensive (facade : Facade) : Bool := facade.flags.permits (some .expensiveInitialPackets)

/-- The number of drops of a metric that a facade has counted. -/
def tally (facade : Facade) (metric : String) : Nat :=
  if metric = Catalogue.expensiveRejectedInitialPacketCount.name then facade.rejectedDrops
  else facade.acceptedDrops

/-- The facade that has counted one drop more of a metric. -/
def count (facade : Facade) (metric : String) : Facade :=
  if metric = Catalogue.expensiveRejectedInitialPacketCount.name then
    { facade with rejectedDrops := facade.rejectedDrops + 1 }
  else { facade with acceptedDrops := facade.acceptedDrops + 1 }

theorem tally_count {metric other : String} (h : metric ∈ Drop.metrics) (h' : other ∈ Drop.metrics)
    (facade : Facade) :
    (facade.count other).tally metric = facade.tally metric + if other = metric then 1 else 0 := by
  simp only [Drop.metrics, List.mem_cons, List.not_mem_nil, or_false] at h h'
  rcases h with rfl | rfl <;> rcases h' with rfl | rfl <;> rfl

/-- What is logged of a drop. -/
def dropRecords (facade : Facade) (o : PlacedCall) (drop : Drop) : List LogRecord :=
  let n := facade.tally drop.metric + 1
  if isLoggedDrop n then
    o.logging.records o.stamp facade.logger .debug "metrics.peer_ip.unreducible"
      [("metric", .text drop.metric), ("address_type", .text drop.peer.kindName),
        ("dropped", .int n)]
  else []

/-- An event that is a drop is not refused, and has a peer that cannot be reduced. -/
theorem labelling_of_drop? {event : Event} {drop : Drop} (h : event.drop? = some drop) :
    misfit? event.sources = none ∧ labelling event.sources = .error drop.peer := by
  rcases Event.eq_of_drop? h with ⟨peer, rfl, hnone, rfl⟩ | ⟨l, peer, rfl, hdimension, hnone, rfl⟩
  · exact ⟨rfl, by simp only [Event.sources, labelling, hnone]⟩
  · refine ⟨by simp [misfit?, Event.sources, hdimension], ?_⟩
    simp only [Event.sources, labelling, hnone]
    rfl

/-- An event that is a drop belongs to the metric of the drop, and is counted there. -/
theorem counted_of_drop? {event : Event} {drop : Drop} (h : event.drop? = some drop)
    (facade : Facade) :
    event.metric.name = drop.metric ∧ facade.covers event = facade.isExpensive
      ∧ facade.countDrop event = facade.count drop.metric
      ∧ facade.drops event = facade.tally drop.metric := by
  rcases Event.eq_of_drop? h with ⟨peer, rfl, -, rfl⟩ | ⟨l, peer, rfl, -, -, rfl⟩ <;>
    exact ⟨rfl, rfl, rfl, rfl⟩

/-- **What a drop does** on a call. -/
theorem serve_of_drop (facade : Facade) {o : PlacedCall} {drop : Drop}
    (h : o.call.drop? = some drop) :
    facade.serve o
      = if facade.isExpensive then (facade.dropRecords o drop, facade.count drop.metric)
        else ([], facade) := by
  obtain ⟨event, hevent, hdrop⟩ := Call.exists_of_drop? h
  obtain ⟨hmisfit, hpeer⟩ := labelling_of_drop? hdrop
  obtain ⟨hname, hcovers, hcount, -⟩ := counted_of_drop? hdrop facade
  obtain ⟨-, -, -, hnext⟩ := counted_of_drop? hdrop (facade.count drop.metric)
  have hmetric := Event.metric_mem_of_drop? hdrop
  rw [tally_count hmetric hmetric, if_pos rfl] at hnext
  have hlogger : (facade.count drop.metric).logger = facade.logger := hcount ▸ logger_countDrop ..
  rw [facade.serve_of_event hevent]
  unfold reported report
  rw [hmisfit, hcovers]
  cases facade.isExpensive with
  | false => rfl
  | true =>
    rw [hpeer]
    dsimp only
    rw [hcount, hnext, hlogger, dropFields, hname]
    rfl

/-- **What is no drop** does nothing. -/
theorem serve_of_no_drop (facade : Facade) {o : PlacedCall} (h : o.call.drop? = none) :
    facade.serve o = ([], facade) := by
  cases hevent : Event.ofCall o.call.method o.call.args with
  | error fault =>
    unfold serve
    rw [hevent]
  | ok event =>
    rw [facade.serve_of_event hevent]
    unfold reported report
    cases hmisfit : misfit? event.sources with
    | some fault => rfl
    | none =>
      obtain ⟨labels, hlabels⟩ :=
        Event.labelling_of_drop?_eq_none (Call.drop?_of_event hevent ▸ h) hmisfit
      cases facade.covers event with
      | false => rfl
      | true =>
        rw [hlabels]
        dsimp only
        rcases o.store.resolve (qualify facade.space event.metric.name) labels with
          ⟨fault | id, store⟩ <;> rfl

/-- **Calls that are alike** have the same records and leave the same facade. -/
theorem serve_eq_of_alike (facade : Facade) {o o' : PlacedCall} (h : o.Alike o') :
    facade.serve o = facade.serve o' := by
  have hrecords {drop drop' : Drop} (hmetric : drop.metric = drop'.metric)
      (hkind : drop.peer.kindName = drop'.peer.kindName) :
      facade.dropRecords o drop = facade.dropRecords o' drop' := by
    unfold dropRecords
    rw [hmetric, hkind, h.logging, h.stamp]
  rcases h.call with hcall | ⟨drop, drop', hdrop, hdrop', hmetric, hkind⟩
  · cases hdrop : o.call.drop? with
    | none => rw [serve_of_no_drop _ hdrop, serve_of_no_drop _ (hcall ▸ hdrop)]
    | some drop => rw [serve_of_drop _ hdrop, serve_of_drop _ (hcall ▸ hdrop), hrecords rfl rfl]
  · rw [serve_of_drop _ hdrop, serve_of_drop _ hdrop', hrecords hmetric hkind, hmetric]

theorem logged_eq_of_alike (facade : Facade) {os os' : List PlacedCall}
    (h : List.Forall₂ Alike os os') : facade.logged os = facade.logged os' := by
  induction h generalizing facade with
  | nil => rfl
  | cons halike _ ih =>
    unfold logged
    rw [facade.serve_eq_of_alike halike, ih]

/-! ## What a facade has counted -/

/-- **A facade has counted the drops of some calls**: of each metric that has a
label for the peer as many as there were. -/
structure HasCounted (logger : Logger) (past : List PlacedCall) (facade : Facade) : Prop where
  /-- It has the metrics. -/
  expensive : facade.isExpensive = true
  /-- Its logger. -/
  logger_eq : facade.logger = logger
  /-- The drops. -/
  tally_eq : ∀ metric ∈ Drop.metrics, facade.tally metric = dropsAmong metric past

variable {logger : Logger} {past : List PlacedCall} {facade : Facade}

/-- **One call more.** -/
theorem HasCounted.serve (h : facade.HasCounted logger past) (o : PlacedCall) :
    (facade.serve o).2.HasCounted logger (past ++ [o]) := by
  cases hdrop : o.call.drop? with
  | none =>
    rw [facade.serve_of_no_drop hdrop]
    refine ⟨h.expensive, h.logger_eq, fun metric hmetric => ?_⟩
    rw [dropsAmong_concat, hdrop]
    exact h.tally_eq metric hmetric
  | some drop =>
    have hname : drop.metric ∈ Drop.metrics := by
      obtain ⟨event, -, hevent⟩ := Call.exists_of_drop? hdrop
      exact Event.metric_mem_of_drop? hevent
    rw [facade.serve_of_drop hdrop, if_pos h.expensive]
    refine ⟨?_, ?_, fun metric hmetric => ?_⟩
    · show (facade.count drop.metric).isExpensive = true
      unfold isExpensive count
      split <;> exact h.expensive
    · show (facade.count drop.metric).logger = logger
      unfold count
      split <;> exact h.logger_eq
    · rw [dropsAmong_concat, hdrop, tally_count hmetric hname, h.tally_eq metric hmetric]
      simp

/-- **Any number of calls more.** -/
theorem HasCounted.afterwards (h : facade.HasCounted logger past) (os : List PlacedCall) :
    (facade.afterwards os).HasCounted logger (past ++ os) := by
  induction os generalizing past facade with
  | nil => rwa [List.append_nil]
  | cons o os ih =>
    have hrest := ih (h.serve o)
    rwa [List.append_assoc] at hrest

/-- At first there is nothing to count. -/
theorem hasCounted_of_build {store : Store} {flags : Flags} {space : Value} {logging : Logging}
    {stamp : String} {records : List LogRecord}
    (hbuild : (build store flags space logging stamp logger).1 = .ok (facade, records))
    (hflags : flags.permits (some .expensiveInitialPackets) = true) :
    facade.HasCounted logger [] := by
  obtain ⟨rfl, -⟩ := eq_of_build hbuild
  refine ⟨hflags, rfl, fun metric _ => ?_⟩
  unfold tally
  split <;> rfl

end Facade

/-! ## Which drops are logged -/

/-- **What is logged on a call**, by the past: nothing if the call is no drop,
and of the drop of a metric that is the `n`-th one a single record, if the records of
facades are let through and the number is one or a multiple of 1024. -/
def PlacedCall.Logs (past : List PlacedCall) (o : PlacedCall) (records : List LogRecord) : Prop :=
  match o.call.drop? with
  | none => records = []
  | some drop =>
    let n := dropsAmong drop.metric past + 1
    if o.letsDebug ∧ (n = 1 ∨ 1024 ∣ n) then ∃ r, records = [r] ∧ r.Tells drop n else records = []

namespace PlacedCall.Logs

variable {past : List PlacedCall} {o : PlacedCall} {records : List LogRecord}

theorem isUnreducible (h : o.Logs past records) : ∀ r ∈ records, r.IsUnreducible := by
  unfold Logs at h
  split at h
  · subst h
    exact nofun
  · dsimp only at h
    split at h
    · obtain ⟨r, rfl, htells⟩ := h
      intro other hmem
      rw [List.mem_singleton.mp hmem]
      exact htells.toIsUnreducible
    · subst h
      exact nofun

/-- How many of the records name a metric, where all are let through. -/
theorem countP_names (h : o.Logs past records) (hlets : o.letsDebug = true) (metric : String) :
    records.countP (·.names metric)
      = if o.call.drop?.any (fun drop => drop.metric == metric)
            ∧ (dropsAmong metric past + 1 = 1 ∨ 1024 ∣ dropsAmong metric past + 1) then 1
        else 0 := by
  unfold Logs at h
  split at h
  · next hdrop =>
    rw [h, hdrop]
    rfl
  · next drop hdrop =>
    rw [hdrop, Option.any_some]
    dsimp only at h
    rw [hlets] at h
    by_cases hmetric : drop.metric = metric
    · subst hmetric
      split at h
      · next hlogged =>
        obtain ⟨r, rfl, htells⟩ := h
        rw [List.countP_singleton, htells.names_iff, if_pos (by simp), if_pos (by simpa using hlogged)]
      · next hlogged =>
        rw [h, if_neg (by simpa using hlogged)]
        rfl
    · rw [if_neg (by simp [hmetric])]
      split at h
      · obtain ⟨r, rfl, htells⟩ := h
        rw [List.countP_singleton, htells.names_iff, if_neg (by simpa using hmetric)]
      · rw [h]
        rfl

end PlacedCall.Logs

namespace Facade

open PlacedCall

variable {logger : Logger} {past : List PlacedCall} {facade : Facade}

theorem isLoggedDrop_iff (n : Nat) : isLoggedDrop n = true ↔ n = 1 ∨ 1024 ∣ n := by
  simp only [isLoggedDrop, dropInterval, Bool.or_eq_true, beq_iff_eq, Nat.dvd_iff_mod_eq_zero]

/-- **What is logged on the next call.** -/
theorem HasCounted.logs (h : facade.HasCounted logger past) (hname : logger.name = loggerName)
    (o : PlacedCall) : o.Logs past (facade.serve o).1 := by
  unfold Logs
  split
  · next hdrop => rw [facade.serve_of_no_drop hdrop]
  · next drop hdrop =>
    obtain ⟨event, -, hevent⟩ := Call.exists_of_drop? hdrop
    rw [facade.serve_of_drop hdrop, if_pos h.expensive]
    unfold dropRecords
    rw [h.tally_eq _ (Event.metric_mem_of_drop? hevent), h.logger_eq]
    dsimp only
    generalize dropsAmong drop.metric past + 1 = n
    by_cases hlogged : n = 1 ∨ 1024 ∣ n
    · rw [if_pos ((isLoggedDrop_iff n).mpr hlogged)]
      have hiff : o.letsDebug = true ↔
          threshold o.logging.level logger.name ≤ Severity.debug.number := by
        unfold letsDebug
        rw [hname, decide_eq_true_iff]
      split
      · next hcond =>
        let fields : List (String × Value) := [("metric", .text drop.metric),
          ("address_type", .text drop.peer.kindName), ("dropped", .int n)]
        have hnodup : (fields.map Prod.fst).Nodup := by simp [fields]
        have hfree : ∀ entry ∈ fields, entry.1 ∉ Logging.ownNames := by
          simp [fields, Logging.ownNames]
        obtain ⟨r, hr, hlogger, hseverity, hevent, hfields⟩ := Logging.exists_records
          (hiff.mp hcond.1) "metrics.peer_ip.unreducible" hnodup hfree o.stamp
        rw [List.forall_mem_cons, List.forall_mem_cons, List.forall_mem_cons] at hfields
        exact ⟨r, hr, ⟨hlogger.trans hname, hseverity, hevent⟩, hfields.1, hfields.2.1, hfields.2.2.1⟩
      · next hcond =>
        exact Logging.records_eq_nil (fun hlets => hcond ⟨hiff.mpr hlets, hlogged⟩) _ _ _
    · rw [if_neg (mt (isLoggedDrop_iff n).mp hlogged), if_neg fun hcond => hlogged hcond.2]

/-- What is logged on some calls is logged on one of them. -/
theorem exists_of_mem_logged (facade : Facade) {os : List PlacedCall} {records : List LogRecord}
    (h : records ∈ facade.logged os) :
    ∃ before o, records = ((facade.afterwards before).serve o).1 := by
  induction os generalizing facade with
  | nil => cases h
  | cons o os ih =>
    rcases List.mem_cons.mp h with rfl | hrest
    · exact ⟨[], o, rfl⟩
    · obtain ⟨before, next, hnext⟩ := ih _ hrest
      exact ⟨o :: before, next, hnext⟩

/-- How many of the first drops are logged. -/
def sampled (n : Nat) : Nat := if n = 0 then 0 else 1 + n / 1024

theorem sampled_succ (n : Nat) :
    sampled (n + 1) = sampled n + if n + 1 = 1 ∨ 1024 ∣ n + 1 then 1 else 0 := by
  unfold sampled
  rw [if_neg (Nat.succ_ne_zero n)]
  cases n with
  | zero => rfl
  | succ n =>
    have hmore : n + 1 + 1 ≠ 1 := by omega
    have hdiv : (n + 1 + 1) / 1024 = (n + 1) / 1024 + if 1024 ∣ n + 1 + 1 then 1 else 0 :=
      Nat.succ_div
    simp only [if_neg (Nat.succ_ne_zero n), hmore, false_or]
    rw [hdiv, ← Nat.add_assoc]

/-- **How many records there are of a metric** where all are let through. -/
theorem HasCounted.countP_names (h : facade.HasCounted logger []) (hname : logger.name = loggerName)
    {os : List PlacedCall} (hlets : ∀ o ∈ os, o.letsDebug = true) (metric : String) :
    (facade.logged os).flatten.countP (·.names metric) = sampled (dropsAmong metric os) := by
  induction os using List.reverseRecOn with
  | nil => rfl
  | append_singleton os o ih =>
    have hall := List.forall_mem_append.mp hlets
    have hlogs : o.Logs os ((facade.afterwards os).serve o).1 := (h.afterwards os).logs hname o
    have hnew := hlogs.countP_names (hall.2 o List.mem_cons_self) metric
    have hlogged : facade.logged (os ++ [o])
        = facade.logged os ++ [((facade.afterwards os).serve o).1] :=
      facade.logged_append os [o]
    rw [hlogged, List.flatten_append, List.countP_append, ih hall.1, List.flatten_singleton, hnew,
      dropsAmong_concat]
    cases o.call.drop?.any fun drop => drop.metric == metric with
    | false => simp
    | true => simp [sampled_succ]

/-- **What a facade logs, whatever it is called for.** Let it have the metrics with a
label for the peer, and the logger that the logging gives to facades.

* Each record is one of an unreducible peer.
* What is logged on a call is said by `PlacedCall.Logs`: the drop of a metric that is
  the `n`-th one is logged once or not at all, by the number and by whether the records of
  facades are let through at that moment, and by nothing else of the past.
* Where they are let through throughout, `n` drops of a metric are `1 + n / 1024` records
  of it, but none if there is no drop.
* A facade that is built in the same way over any store logs the same on calls
  that are alike, so that no record shows more of a peer than its kind. -/
theorem drops_sampled {store : Store} {flags : Flags} {space : Value} {logging : Logging}
    {stamp : String} {logger : Logger} {facade : Facade} {records : List LogRecord}
    (hlogger : logging.logger loggerName [] = .ok logger)
    (hbuild : (build store flags space logging stamp logger).1 = .ok (facade, records))
    (hflags : flags.permits (some .expensiveInitialPackets) = true) :
    (∀ os, ∀ r ∈ (facade.logged os).flatten, r.IsUnreducible)
      ∧ (∀ past o rest, ∃ records,
        (facade.logged (past ++ o :: rest))[past.length]? = some records ∧ o.Logs past records)
      ∧ (∀ os, (∀ o ∈ os, o.letsDebug = true) → ∀ metric,
        (facade.logged os).flatten.countP (·.names metric) =
          if dropsAmong metric os = 0 then 0 else 1 + dropsAmong metric os / 1024)
      ∧ ∀ store' facade' records',
        (build store' flags space logging stamp logger).1 = .ok (facade', records') →
        ∀ os os', List.Forall₂ Alike os os' → facade'.logged os' = facade.logged os := by
  have hname := Logging.name_of_logger hlogger
  have hstart : facade.HasCounted logger [] := hasCounted_of_build hbuild hflags
  have hlogs (past : List PlacedCall) (o : PlacedCall) :
      o.Logs past ((facade.afterwards past).serve o).1 := (hstart.afterwards past).logs hname o
  refine ⟨fun os r hr => ?_, fun past o rest => ?_, fun os hlets metric => ?_, ?_⟩
  · obtain ⟨made, hmade, hr⟩ := List.mem_flatten.mp hr
    obtain ⟨past, o, rfl⟩ := facade.exists_of_mem_logged hmade
    exact (hlogs past o).isUnreducible r hr
  · refine ⟨_, ?_, hlogs past o⟩
    rw [logged_append, List.getElem?_append_right (Nat.le_of_eq (facade.length_logged past)),
      length_logged,
      Nat.sub_self]
    rfl
  · exact hstart.countP_names hname hlets metric
  · intro store' facade' records' hbuild' os os' halike
    rw [(eq_of_build hbuild').1, ← (eq_of_build hbuild).1]
    exact (facade.logged_eq_of_alike halike).symm

/-- Two thousand and forty-eight drops of accepted packets, each under the level that
lets every record through: three records. -/
theorem drops_sampled_replicate :
    let o : PlacedCall := ⟨{ level := 10 }, "", .ofMemory,
      ⟨"expensive_accepted_initial_packet_count", [.text "nowhere"]⟩⟩
    ∃ facade records, (build .ofMemory .on (.text "edge") {} "" (.plain loggerName [])).1
        = .ok (facade, records)
      ∧ (facade.logged (List.replicate 2048 o)).flatten.countP
          (·.names "quic_expensive_accepted_initial_packet_count") = 3 := by
  intro o
  have hok : (build .ofMemory .on (.text "edge") {} "" (.plain loggerName [])).1.isOk = true := by
    decide +kernel
  cases hbuild : (build .ofMemory .on (.text "edge") {} "" (.plain loggerName [])).1 with
  | error fault =>
    rw [hbuild] at hok
    exact absurd hok Bool.false_ne_true
  | ok built =>
    obtain ⟨facade, records⟩ := built
    have hdrop : o.call.drop?.any (fun drop =>
        drop.metric == "quic_expensive_accepted_initial_packet_count") = true := by decide +kernel
    have hcount : dropsAmong "quic_expensive_accepted_initial_packet_count" (List.replicate 2048 o)
        = 2048 := by
      unfold dropsAmong
      rw [List.countP_replicate, if_pos hdrop]
    have hlets : ∀ o' ∈ List.replicate 2048 o, o'.letsDebug = true := by
      intro o' ho
      rw [List.eq_of_mem_replicate ho]
      decide +kernel
    obtain ⟨-, -, htotal, -⟩ := drops_sampled rfl hbuild (by decide)
    have hthree := htotal (List.replicate 2048 o) hlets
      "quic_expensive_accepted_initial_packet_count"
    rw [hcount] at hthree
    exact ⟨facade, records, rfl, hthree⟩

end Facade

end QuicTelemetry
