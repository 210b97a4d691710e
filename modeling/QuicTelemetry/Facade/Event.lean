import QuicTelemetry.Metric.Catalogue

/-!
# Events

What a transport reports: one constructor for each thing that can happen, with
the values that tell the series apart. A value may be anything; which ones an
event takes is said by its label sources.
-/

namespace QuicTelemetry

/-- **Something a transport reports.** -/
inductive Event where
  /-- The number of connections in memory is to be changed. -/
  | connectionsInMemory
  /-- A number of writable streams is to be observed. -/
  | maximumWritableStreams
  /-- A stage of a handshake is to be timed. -/
  | handshakeTime (stage : Value)
  /-- A handshake failed. -/
  | failedHandshake (reason : Value)
  /-- A write failed. -/
  | writeError (reason : Value)
  /-- A packet has a connection identifier that cannot be verified. -/
  | invalidConnectionId (reason : Value)
  /-- An Initial packet was accepted. -/
  | acceptedInitialPacket
  /-- An Initial packet of this peer was accepted. -/
  | acceptedInitialPacketFrom (peer : Value)
  /-- An Initial packet was rejected. -/
  | rejectedInitialPacket (reason : Value)
  /-- An Initial packet of this peer was rejected. -/
  | rejectedInitialPacketFrom (reason peer : Value)
  /-- A datagram was dropped. -/
  | datagramDrop
  /-- The bandwidth in use is to be changed. -/
  | utilizedBandwidth
  /-- The highest bandwidth of a connection is to be observed. -/
  | maxBandwidth
  /-- The highest loss of a connection is to be observed. -/
  | maxLoss
  /-- HTTP/3 closed a connection from here. -/
  | localHttp3Close (reason : Value)
  /-- QUIC closed a connection from here. -/
  | localTransportClose (reason : Value)
  /-- HTTP/3 closed a connection from the other side. -/
  | peerHttp3Close (reason : Value)
  /-- QUIC closed a connection from the other side. -/
  | peerTransportClose (reason : Value)
  /-- The delay of a task is to be observed. -/
  | taskScheduleDelay (task : Value)
  /-- The poll time of a task is to be observed. -/
  | taskPollDuration (task : Value)
  /-- The total poll time of a task grows. -/
  | taskPollTime (task : Value)
  deriving Repr

/-- **Where the value of a label comes from.** -/
inductive LabelSource where
  /-- A label of a closed set, which nothing else may stand for. -/
  | closed (dimension : Dimension) (v : Value)
  /-- The text of any value. -/
  | free (v : Value)
  /-- The network of a peer; what is no peer address leads to a drop. -/
  | peer (v : Value)
  deriving Repr

namespace Event

/-- **The metric an event belongs to.** -/
def metric : Event → Metric
  | .connectionsInMemory => Catalogue.connectionsInMemory
  | .maximumWritableStreams => Catalogue.maximumWritableStreams
  | .handshakeTime _ => Catalogue.handshakeTimeSeconds
  | .failedHandshake _ => Catalogue.failedHandshakes
  | .writeError _ => Catalogue.writeErrors
  | .invalidConnectionId _ => Catalogue.invalidCidPacketCount
  | .acceptedInitialPacket => Catalogue.acceptedInitialPacketCount
  | .acceptedInitialPacketFrom _ => Catalogue.expensiveAcceptedInitialPacketCount
  | .rejectedInitialPacket _ => Catalogue.rejectedInitialPacketCount
  | .rejectedInitialPacketFrom .. => Catalogue.expensiveRejectedInitialPacketCount
  | .datagramDrop => Catalogue.udpDropCount
  | .utilizedBandwidth => Catalogue.utilizedBandwidth
  | .maxBandwidth => Catalogue.maxBandwidthMbps
  | .maxLoss => Catalogue.maxLossPct
  | .localHttp3Close _ => Catalogue.localH3ConnCloseErrorCount
  | .localTransportClose _ => Catalogue.localQuicConnCloseErrorCount
  | .peerHttp3Close _ => Catalogue.peerH3ConnCloseErrorCount
  | .peerTransportClose _ => Catalogue.peerQuicConnCloseErrorCount
  | .taskScheduleDelay _ => Catalogue.taskScheduleDelaySeconds
  | .taskPollDuration _ => Catalogue.taskPollDurationSeconds
  | .taskPollTime _ => Catalogue.taskTotalPollTimeMicros

/-- **Where an event's labels come from**, by their names. -/
def sources : Event → List (String × LabelSource)
  | .handshakeTime v => [("stage", .closed .handshakeStage v)]
  | .failedHandshake v => [("reason", .closed .handshakeError v)]
  | .writeError v => [("reason", .closed .writeError v)]
  | .invalidConnectionId v => [("reason", .free v)]
  | .acceptedInitialPacketFrom peer => [("peer_ip", .peer peer)]
  | .rejectedInitialPacket v => [("reason", .closed .initialPacketError v)]
  | .rejectedInitialPacketFrom v peer =>
    [("reason", .closed .initialPacketError v), ("peer_ip", .peer peer)]
  | .localHttp3Close v | .peerHttp3Close v => [("reason", .closed .http3Error v)]
  | .localTransportClose v | .peerTransportClose v => [("reason", .closed .transportError v)]
  | .taskScheduleDelay v | .taskPollDuration v | .taskPollTime v => [("task", .free v)]
  | .connectionsInMemory | .maximumWritableStreams | .acceptedInitialPacket | .datagramDrop
  | .utilizedBandwidth | .maxBandwidth | .maxLoss => []

theorem map_fst_sources (e : Event) : e.sources.map Prod.fst = e.metric.labels := by
  cases e <;> rfl

/-- The events without values, by the names callers use. -/
def plainNames : List (String × Event) :=
  [("connections_in_memory", .connectionsInMemory),
   ("maximum_writable_streams", .maximumWritableStreams),
   ("accepted_initial_packet_count", .acceptedInitialPacket),
   ("udp_drop_count", .datagramDrop),
   ("utilized_bandwidth", .utilizedBandwidth),
   ("max_bandwidth_mbps", .maxBandwidth),
   ("max_loss_pct", .maxLoss)]

/-- The events with one value, by the names callers use. -/
def unaryNames : List (String × (Value → Event)) :=
  [("handshake_time_seconds", .handshakeTime),
   ("failed_handshakes", .failedHandshake),
   ("write_errors", .writeError),
   ("invalid_cid_packet_count", .invalidConnectionId),
   ("expensive_accepted_initial_packet_count", .acceptedInitialPacketFrom),
   ("rejected_initial_packet_count", .rejectedInitialPacket),
   ("local_h3_conn_close_error_count", .localHttp3Close),
   ("local_quic_conn_close_error_count", .localTransportClose),
   ("peer_h3_conn_close_error_count", .peerHttp3Close),
   ("peer_quic_conn_close_error_count", .peerTransportClose),
   ("runtime_task_schedule_delay_histogram", .taskScheduleDelay),
   ("runtime_task_poll_duration_histogram", .taskPollDuration),
   ("runtime_task_total_poll_time_micros", .taskPollTime)]

/-- The name of the one event with two values. -/
def binaryName : String := "expensive_rejected_initial_packet_count"

/-- **The event that a call by name stands for**: the name may be unknown, or
the number of values wrong. -/
def ofCall (name : String) (values : List Value) : Except Fault Event :=
  match plainNames.lookup name, unaryNames.lookup name, values with
  | some event, _, [] => .ok event
  | _, some event, [v] => .ok (event v)
  | some _, _, _ | _, some _, _ => .error .mistyped
  | none, none, values =>
    if name = binaryName then
      match values with
      | [reason, peer] => .ok (.rejectedInitialPacketFrom reason peer)
      | _ => .error .mistyped
    else .error .absent

end Event

end QuicTelemetry
