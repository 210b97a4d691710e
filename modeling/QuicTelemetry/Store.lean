import QuicTelemetry.Store.Exposition
import QuicTelemetry.Store.Memory
import QuicTelemetry.Store.Metered
import QuicTelemetry.Store.Pipeline

/-!
# Stores

Where metrics are registered and kept. All stores register families, resolve
series and operate on their handles; they differ in what they keep and in how
it can be read.
-/

namespace QuicTelemetry

/-- **A store.** -/
inductive Store where
  /-- Series in memory, for reading back. -/
  | memory (m : Memory)
  /-- Series that a scraper reads. -/
  | exposition (e : Exposition)
  /-- A meter that writes down what it was asked for. -/
  | recorder (m : Metered Recorder)
  /-- A meter that aggregates. -/
  | pipeline (m : Metered Pipeline)

namespace Store

instance : Inhabited Store := ⟨.memory .empty⟩

/-- The memory store without any family. -/
def ofMemory : Store := .memory .empty

/-- The exposition store without any family. -/
def ofExposition : Store := .exposition .empty

/-- The store over a meter that writes down what it was asked for. -/
def ofRecorder : Store := .recorder { meter := {} }

/-- The store over the pipeline of a service, with the views of the catalogue
in a namespace. -/
def ofPipeline (space : Option String) (service : Value) : Store :=
  .pipeline { meter := .ofCatalogue space service }

/-- The name of the kind of a store in log records. -/
def kindName : Store → String
  | .memory _ => "InMemoryBackend"
  | .exposition _ => "PrometheusBackend"
  | .recorder _ | .pipeline _ => "OtelBackend"

/-- **The names that are taken.** -/
def names : Store → List String
  | .memory m => m.names
  | .exposition e => e.names
  | .recorder m => m.names
  | .pipeline m => m.names

/-- The outcome of an operation on a store of one kind, as one of a store. -/
def put {S α : Type} (kind : S → Store) (result : Except Fault α × S) : Except Fault α × Store :=
  (result.1, kind result.2)

/-- Registers a family whose bounds are in order. -/
def enter (store : Store) (name help : String) (shape : Shape) (labels : List String) :
    Except Fault Unit × Store :=
  match store with
  | .memory m => put .memory (m.register name help shape labels)
  | .exposition e => put .exposition (e.register name help shape labels)
  | .recorder m => put .recorder (m.register name help shape labels)
  | .pipeline m => put .pipeline (m.register name help shape labels)

/-- **Registers a family.** Bounds that are not in order are refused before
the name is taken. -/
def register (store : Store) (name help : String) (shape : Shape) (labels : List String) :
    Except Fault Unit × Store :=
  match shape with
  | .histogram bounds =>
    match Bounds.check name bounds with
    | .error fault => (.error fault, store)
    | .ok bounds => store.enter name help (.histogram bounds) labels
  | shape => store.enter name help shape labels

/-- **Resolves a series**: the one with these labels, made if it is new. -/
def resolve (store : Store) (name : String) (given : Labelling) :
    Except Fault SeriesId × Store :=
  match store with
  | .memory m => put .memory (m.resolve name given)
  | .exposition e => put .exposition (e.resolve name given)
  | .recorder m => put .recorder (m.resolve name given)
  | .pipeline m => put .pipeline (m.resolve name given)

/-- **Operates on the handle of a series.** -/
def call (store : Store) (id : SeriesId) (verb : Verb) (args : List Value) :
    Except Fault Unit × Store :=
  match store with
  | .memory m => put .memory (m.call id verb args)
  | .exposition e => put .exposition (e.call id verb args)
  | .recorder m => put .recorder (m.call id verb args)
  | .pipeline m => put .pipeline (m.call id verb args)

/-- The shape of a registered family. -/
def shape? (store : Store) (name : String) : Option Shape :=
  match store with
  | .memory m => (m.families.get? name).map Family.shape
  | .exposition e => (e.families.get? name).map Family.shape
  | .recorder m => (m.families.get? name).map fun f => f.family.shape
  | .pipeline m => (m.families.get? name).map fun f => f.family.shape

end Store

end QuicTelemetry
