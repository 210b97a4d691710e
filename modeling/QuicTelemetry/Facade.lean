import QuicTelemetry.Facade.Event
import QuicTelemetry.Handle
import QuicTelemetry.Log.State

/-!
# The facade

The transport reports events to a facade and gets a handle for each. A facade
is built over a store: it registers the metrics that are switched on, and from
then on no event fails because of the store. An event fails by its values only:
one outside a closed set of labels, or one that cannot be written where its text
is the label.

An event whose metric is off gets a handle that does nothing, and so does one
whose peer address cannot be reduced. The latter is a *drop*: it is counted,
and of the drops of a metric the first and every 1024th are logged, without the
address.
-/

namespace QuicTelemetry

/-- **A facade over a store.** -/
structure Facade where
  /-- The flags it was built with. -/
  flags : Flags
  /-- The namespace of its families. -/
  space : Option String
  /-- The metrics it registered, in order. -/
  registered : List Metric
  /-- Its logger. -/
  logger : Logger
  /-- How many accepted packets were dropped. -/
  acceptedDrops : Nat := 0
  /-- How many rejected packets were dropped. -/
  rejectedDrops : Nat := 0

namespace Facade

/-- The name of the logger of facades. -/
def loggerName : String := "quicmetrics.default"

/-- The shape of a metric's family. -/
def shapeOf (metric : Metric) : Shape :=
  match metric.kind with
  | .counter => .counter
  | .gauge => .gauge
  | .histogram | .timeHistogram => .histogram (metric.bounds.getD [])

/-- Registers metrics in order, up to the first one that is refused. -/
def registerAll (space : Option String) (store : Store) : List Metric → Except Fault Unit × Store
  | [] => (.ok (), store)
  | metric :: rest =>
    match store.register (qualify space metric.name) metric.description (shapeOf metric)
        metric.labels with
    | (.error fault, store) => (.error fault, store)
    | (.ok (), store) => registerAll space store rest

/-- The metrics without labels, whose series are resolved once. -/
def unlabelled : List Metric :=
  [Catalogue.connectionsInMemory, Catalogue.maximumWritableStreams,
    Catalogue.acceptedInitialPacketCount, Catalogue.utilizedBandwidth, Catalogue.maxBandwidthMbps,
    Catalogue.maxLossPct, Catalogue.udpDropCount]

/-- Resolves the series without labels of the given metrics. -/
def resolveAll (space : Option String) (store : Store) : List Metric → Except Fault Unit × Store
  | [] => (.ok (), store)
  | metric :: rest =>
    match store.resolve (qualify space metric.name) [] with
    | (.error fault, store) => (.error fault, store)
    | (.ok _, store) => resolveAll space store rest

/-- The fields a facade logs when it was built. -/
def builtFields (space : Value) (flags : Flags) (count : Nat) : List (String × Value) :=
  [("count", .int count), ("namespace", if space.truthy then space else .null),
    ("flags", .dict flags.entries)]

/-- **Builds a facade**: registers the metrics that are switched on, then
resolves the series without labels. The answer carries what was logged. -/
def build (store : Store) (flags : Flags) (space : Value) (logging : Logging) (stamp : String)
    (logger : Logger) : Except Fault (Facade × List LogRecord) × Store :=
  let metrics := Catalogue.permitted flags
  match registerAll space.space? store metrics with
  | (.error fault, store) => (.error fault, store)
  | (.ok (), store) =>
    match resolveAll space.space? store
        (unlabelled.filter fun metric => flags.permits metric.flag) with
    | (.error fault, store) => (.error fault, store)
    | (.ok (), store) =>
      let facade : Facade := { flags, space := space.space?, registered := metrics, logger }
      (.ok (facade,
        logging.records stamp logger .debug "metrics.registered"
          (builtFields space flags metrics.length)), store)

/-- Whether the metric of an event is registered. -/
def covers (facade : Facade) (event : Event) : Bool := facade.flags.permits event.metric.flag

/-- What is said of a value outside a closed set of labels. It is said with the
literal of the value; if there is none, what keeps it from being written. -/
def refusal (limits : Limits) (dimension : Dimension) (v : Value) : Fault :=
  match v.obstacle? limits.digits .literal limits.depth with
  | none => .notInDimension dimension v
  | some obstacle => .unwritable obstacle

/-- **The first value of an event that has no label**: it is outside the closed
set of labels, or has no text where the text is the label. -/
def misfit? (sources : List (String × LabelSource)) (limits : Limits := .standard) :
    Option Fault :=
  sources.findSome? fun
    | (_, .closed dimension (.label l)) =>
      if l.dimension = dimension then none else some (refusal limits dimension (.label l))
    | (_, .closed dimension v) => some (refusal limits dimension v)
    | (_, .free v) => (v.obstacle? limits.digits .text limits.depth).map .unwritable
    | (_, .peer _) => none

/-- The labels of an event, or the value that is no peer address. -/
def labelling : List (String × LabelSource) → Except Value Labelling
  | [] => .ok []
  | (name, source) :: rest =>
    match source with
    | .closed _ v | .free v => (labelling rest).map ((name, .text v.toText) :: ·)
    | .peer v =>
      match v.peerLabel? with
      | some label => (labelling rest).map ((name, .text label) :: ·)
      | none => .error v

/-- How many drops lie between two that are logged. -/
def dropInterval : Nat := 1024

/-- Whether the drop of the given number is logged. -/
def isLoggedDrop (n : Nat) : Bool := n == 1 || n % dropInterval == 0

/-- The number of drops of an event's metric. -/
def drops (facade : Facade) (event : Event) : Nat :=
  match event with
  | .rejectedInitialPacketFrom .. => facade.rejectedDrops
  | _ => facade.acceptedDrops

/-- The facade that has counted one drop more. -/
def countDrop (facade : Facade) (event : Event) : Facade :=
  match event with
  | .rejectedInitialPacketFrom .. => { facade with rejectedDrops := facade.rejectedDrops + 1 }
  | _ => { facade with acceptedDrops := facade.acceptedDrops + 1 }

/-- The fields logged for a drop: the kind of the address, never the address
itself. -/
def dropFields (event : Event) (peer : Value) (n : Nat) : List (String × Value) :=
  [("metric", .text event.metric.name), ("address_type", .text peer.kindName),
    ("dropped", .int n)]

/-- **What an event leads to.** -/
structure Response where
  /-- The handle for the caller. -/
  handle : Handle
  /-- What was logged. -/
  records : List LogRecord := []

/-- **Reports an event** and gives the handle for it. -/
def report (facade : Facade) (store : Store) (logging : Logging) (stamp : String)
    (event : Event) (limits : Limits := .standard) :
    Except Fault Response × Facade × Store :=
  match misfit? event.sources limits with
  | some fault => (.error fault, facade, store)
  | none =>
    if !facade.covers event then
      (.ok ⟨.idle event.metric.kind, []⟩, facade, store)
    else
      match labelling event.sources with
      | .error peer =>
        let facade := facade.countDrop event
        let n := facade.drops event
        let records :=
          if isLoggedDrop n then
            logging.records stamp facade.logger .debug "metrics.peer_ip.unreducible"
              (dropFields event peer n)
          else []
        (.ok ⟨.idle event.metric.kind, records⟩, facade, store)
      | .ok labels =>
        match store.resolve (qualify facade.space event.metric.name) labels with
        | (.error fault, store) => (.error fault, facade, store)
        | (.ok id, store) => (.ok ⟨.live id, []⟩, facade, store)

/-- **The handle of an event where nothing is measured**: one that does
nothing, whatever the values. -/
def idleReport (event : Event) : Handle := .idle event.metric.kind

end Facade

end QuicTelemetry
