import QuicTelemetry.Facade
import QuicTelemetry.Flags.Load

/-!
# Assembly

What a process does once at its start: it settles its flags, makes the store
that its settings name, and builds the facade that the transport reports to.
Without a store nothing is measured.
-/

namespace QuicTelemetry

/-- The files a process can read, by their paths. -/
abbrev Files := List (String × String)

namespace Assembly

/-- The name of the logger of the assembly. -/
def loggerName : String := "quicmetrics.factory"

/-! ## Flags -/

/-- Whether a path names a directory by its form alone. -/
def isDirectoryPath (path : String) : Bool :=
  match Text.fields '/' path.toList with
  | [] => true
  | first :: rest =>
    ["", ".", "..", "~"].contains (String.ofList first)
      && rest.all fun part => ["", ".", ".."].contains (String.ofList part)

/-- The document at a path, if there is one. -/
def document? (files : Files) (path : Value) : Except Fault (Option String) :=
  match path with
  | .null => .ok none
  | .text path =>
    match files.lookup path with
    | some document => .ok (some document)
    | none => if isDirectoryPath path then .error .isDirectory else .ok none
  | _ => .error .mistyped

/-- The flags loaded from the environment and from the document at a path. -/
def loadFlags (env : Environment) (files : Files) (path : Value) : Except Fault Flags := do
  Flags.load env (← document? files path)

/-! ## The store -/

/-- What the warning says about a pipeline that nothing reads. -/
def readersHint : String :=
  "Build OtelBackend.with_provider(readers=[...]) to export OTel metrics"

/-- A record of the assembly. -/
def record (logging : Logging) (stamp : String) (severity : Severity) (event : String)
    (fields : List (String × Value)) : List LogRecord :=
  match logging.logger loggerName [] with
  | .ok logger => logging.records stamp logger severity event fields
  | .error _ => []

/-- **Makes the store that the settings name**, if they name one. A pipeline is
made without readers, which is worth a warning. -/
def store? (settings : Settings) (logging : Logging) (stamp : String) :
    Except Fault (Option Store × List LogRecord) :=
  let name := match settings.backend with
    | .text s => s
    | _ => ""
  match name with
  | "noop" => .ok (none, [])
  | "memory" => .ok (some .ofMemory, [])
  | "prometheus" => .ok (some .ofExposition, [])
  | "otel" =>
    .ok (some (.ofPipeline settings.space.space? settings.serviceName),
      record logging stamp .warning "metrics.pipeline.no_readers" [("hint", .text readersHint)])
  | _ => .error (.noSuchBackend settings.backend)

/-! ## The facade -/

/-- **What an assembly leads to.** -/
structure Outcome where
  /-- The facade, none if nothing is measured, or why it cannot be built. -/
  facade : Except Fault (Option Facade)
  /-- The store it is over. -/
  store : Option Store
  /-- What was logged. -/
  records : List LogRecord

/-- The fields logged when a facade was built. -/
def builtFields (store : Store) (facade : Facade) : List (String × Value) :=
  [("backend", .text store.kindName), ("metric_count", .int facade.registered.length),
    ("flags", .dict facade.flags.entries)]

/-- Builds the facade over a store. -/
def buildOver (store : Store) (settings : Settings) (flags : Flags) (logging : Logging)
    (stamp : String) : Outcome :=
  match logging.logger Facade.loggerName [] with
  | .error fault => ⟨.error fault, some store, []⟩
  | .ok logger =>
    match Facade.build store flags settings.space logging stamp logger with
    | (.error fault, store) => ⟨.error fault, some store, []⟩
    | (.ok (facade, records), store) =>
      ⟨.ok (some facade), some store,
        records
          ++ record logging stamp .info "metrics.registered" (builtFields store facade)⟩

/-- **Assembles the telemetry of a process**: over the given store, or over a
new one that the settings name. -/
def assemble (settings : Settings) (flags : Flags) (given : Option Store) (logging : Logging)
    (stamp : String) : Outcome :=
  match given with
  | some store => buildOver store settings flags logging stamp
  | none =>
    match store? settings logging stamp with
    | .error fault => ⟨.error fault, none, []⟩
    | .ok (some store, records) =>
      let outcome := buildOver store settings flags logging stamp
      { outcome with records := records ++ outcome.records }
    | .ok (none, records) =>
      ⟨.ok none, none,
        records ++ record logging stamp .info "metrics.disabled" [("backend", settings.backend)]⟩

end Assembly

end QuicTelemetry
