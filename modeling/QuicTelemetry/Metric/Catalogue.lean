import QuicTelemetry.Metric

/-!
# The catalogue

Every metric of the library, in the order in which they are registered. The
bounds of a histogram are chosen for what it measures: delays and poll times
of tasks are mostly below a millisecond, so theirs are fine there.
-/

namespace QuicTelemetry.Catalogue

/-! ## Bounds -/

/-- Bounds for numbers of streams. -/
def writableStreamsBounds : List Binary64 :=
  [0, 5, 10, 100, 1000, 2000, 3000, 10000, 20000, 50000]

/-- Bounds for seconds of a handshake. -/
def handshakeBounds : List Binary64 :=
  [1e-5, 2e-5, 5e-5, 1e-4, 2e-4, 5e-4, 1e-3, 2e-3, 5e-3, 1e-2, 2e-2, 5e-2, 0.1, 0.2, 0.5, 1, 2,
   5]

/-- Bounds for megabits a second. -/
def bandwidthBounds : List Binary64 :=
  [0, 1, 2, 5, 10, 20, 50, 100, 200, 300, 500, 750, 1000, 1500, 2000, 2500, 3000, 3500, 4000,
   4500, 5000, 6000, 7000, 10000]

/-- Bounds for percentages of loss. -/
def lossBounds : List Binary64 :=
  [0, 0.1, 0.2, 0.5, 1, 2, 3, 4, 5, 10, 15, 20, 25, 50, 100]

/-- Bounds for seconds of a task, fine below a millisecond. -/
def taskTimingBounds : List Binary64 :=
  [0, 1e-4, 2e-4, 3e-4, 4e-4, 5e-4, 6e-4, 7e-4, 8e-4, 9e-4, 1e-3, 1e-2, 2e-2, 4e-2, 8e-2, 1e-1,
   1]

/-! ## Metrics -/

/-- Number of QUIC connections currently in memory. -/
def connectionsInMemory : Metric where
  name := "quic_connections_in_memory"
  kind := .gauge
  description := "Number of QUIC connections currently in memory"

/-- Maximum number of writable QUIC streams in a connection. -/
def maximumWritableStreams : Metric where
  name := "quic_maximum_writable_streams"
  kind := .histogram
  description := "Maximum number of writable QUIC streams in a connection"
  bounds := some writableStreamsBounds
  flag := some .maximumWritableStreams

/-- Overhead of QUIC handshake processing stage. -/
def handshakeTimeSeconds : Metric where
  name := "quic_handshake_time_seconds"
  kind := .timeHistogram
  description := "Overhead of QUIC handshake processing stage"
  labels := ["stage"]
  bounds := some handshakeBounds

/-- Number of failed QUIC handshakes. -/
def failedHandshakes : Metric where
  name := "quic_failed_handshakes"
  kind := .counter
  description := "Number of failed QUIC handshakes"
  labels := ["reason"]

/-- Number of error and partial writes while sending QUIC packets. -/
def writeErrors : Metric where
  name := "quic_write_errors"
  kind := .counter
  description := "Number of error and partial writes while sending QUIC packets"
  labels := ["reason"]

/-- Number of QUIC packets received where the CID could not be verified. -/
def invalidCidPacketCount : Metric where
  name := "quic_invalid_cid_packet_count"
  kind := .counter
  description := "Number of QUIC packets received where the CID could not be verified"
  labels := ["reason"]

/-- Number of accepted QUIC Initial packets. -/
def acceptedInitialPacketCount : Metric where
  name := "quic_accepted_initial_packet_count"
  kind := .counter
  description := "Number of accepted QUIC Initial packets"

/-- Number of accepted QUIC Initial packets using expensive label(s). -/
def expensiveAcceptedInitialPacketCount : Metric where
  name := "quic_expensive_accepted_initial_packet_count"
  kind := .counter
  description := "Number of accepted QUIC Initial packets using expensive label(s)"
  labels := ["peer_ip"]
  flag := some .expensiveInitialPackets

/-- Number of QUIC packets received but not associated with an active connection. -/
def rejectedInitialPacketCount : Metric where
  name := "quic_rejected_initial_packet_count"
  kind := .counter
  description := "Number of QUIC packets received but not associated with an active connection"
  labels := ["reason"]

/-- Number of QUIC packets received but not associated with an active connection
using expensive label(s). -/
def expensiveRejectedInitialPacketCount : Metric where
  name := "quic_expensive_rejected_initial_packet_count"
  kind := .counter
  description :=
    "Number of QUIC packets received but not associated with an active "
      ++ "connection using expensive label(s)"
  labels := ["reason", "peer_ip"]
  flag := some .expensiveInitialPackets

/-- Number of UDP packets dropped when receiving. -/
def udpDropCount : Metric where
  name := "quic_udp_drop_count"
  kind := .counter
  description := "Number of UDP packets dropped when receiving"

/-- Combined utilized bandwidth of all open connections (max over the past two minutes). -/
def utilizedBandwidth : Metric where
  name := "quic_utilized_bandwidth"
  kind := .gauge
  description :=
    "Combined utilized bandwidth of all open connections (max over the past "
      ++ "two minutes)"

/-- The highest utilized bandwidth reported during the lifetime of the connection. -/
def maxBandwidthMbps : Metric where
  name := "quic_max_bandwidth_mbps"
  kind := .histogram
  description := "The highest utilized bandwidth reported during the lifetime of the connection"
  bounds := some bandwidthBounds

/-- The highest momentary loss reported during the lifetime of the connection. -/
def maxLossPct : Metric where
  name := "quic_max_loss_pct"
  kind := .histogram
  description := "The highest momentary loss reported during the lifetime of the connection"
  bounds := some lossBounds

/-- Number of HTTP/3 connection closures generated locally. -/
def localH3ConnCloseErrorCount : Metric where
  name := "quic_local_h3_conn_close_error_count"
  kind := .counter
  description := "Number of HTTP/3 connection closures generated locally"
  labels := ["reason"]

/-- Number of QUIC connection closures generated locally. -/
def localQuicConnCloseErrorCount : Metric where
  name := "quic_local_quic_conn_close_error_count"
  kind := .counter
  description := "Number of QUIC connection closures generated locally"
  labels := ["reason"]

/-- Number of HTTP/3 connection closures generated by peer. -/
def peerH3ConnCloseErrorCount : Metric where
  name := "quic_peer_h3_conn_close_error_count"
  kind := .counter
  description := "Number of HTTP/3 connection closures generated by peer"
  labels := ["reason"]

/-- Number of QUIC connection closures generated by peer. -/
def peerQuicConnCloseErrorCount : Metric where
  name := "quic_peer_quic_conn_close_error_count"
  kind := .counter
  description := "Number of QUIC connection closures generated by peer"
  labels := ["reason"]

/-- Histogram of task schedule delays. -/
def taskScheduleDelaySeconds : Metric where
  name := "runtime_task_schedule_delay_seconds"
  kind := .timeHistogram
  description := "Histogram of task schedule delays"
  labels := ["task"]
  bounds := some taskTimingBounds

/-- Histogram of task poll durations. -/
def taskPollDurationSeconds : Metric where
  name := "runtime_task_poll_duration_seconds"
  kind := .timeHistogram
  description := "Histogram of task poll durations"
  labels := ["task"]
  bounds := some taskTimingBounds

/-- Total time spent polling a task, in microseconds. -/
def taskTotalPollTimeMicros : Metric where
  name := "runtime_task_total_poll_time_micros"
  kind := .counter
  description := "Total time spent polling a task, in microseconds"
  labels := ["task"]

/-- The metrics of QUIC connections. -/
def connection : List Metric :=
  [connectionsInMemory, maximumWritableStreams, handshakeTimeSeconds, failedHandshakes,
   writeErrors, invalidCidPacketCount, acceptedInitialPacketCount,
   expensiveAcceptedInitialPacketCount, rejectedInitialPacketCount,
   expensiveRejectedInitialPacketCount, udpDropCount, utilizedBandwidth, maxBandwidthMbps,
   maxLossPct, localH3ConnCloseErrorCount, localQuicConnCloseErrorCount,
   peerH3ConnCloseErrorCount, peerQuicConnCloseErrorCount]

/-- The metrics of tasks. -/
def task : List Metric :=
  [taskScheduleDelaySeconds, taskPollDurationSeconds, taskTotalPollTimeMicros]

/-- **All metrics**, in the order in which they are registered. -/
def all : List Metric := connection ++ task

/-- The metric with the given name. -/
def find? (name : String) : Option Metric := all.find? fun metric => metric.name == name

/-- The metric a value names; only texts name one. -/
def get : Value → Except Fault Metric
  | .text name =>
    match find? name with
    | some metric => .ok metric
    | none => .error (.unknownMetric (.text name))
  | v => if v.isKey then .error (.unknownMetric v) else .error .mistyped

/-- The metrics that a setting of the flags switches on. -/
def permitted (flags : Flags) : List Metric := all.filter fun metric => flags.permits metric.flag

end QuicTelemetry.Catalogue
