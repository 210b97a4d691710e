import QuicTelemetry.Value

/-!
# Flags

The optional metrics are switched on one by one. A flag that is off keeps its
metrics from being registered, and their events get a handle that does
nothing.
-/

namespace QuicTelemetry

/-- **A switch for optional metrics.** -/
inductive Flag where
  /-- The number of writable streams, which walks the streams on every
  update. -/
  | maximumWritableStreams
  /-- The counters of Initial packets by peer network, which have many
  series. -/
  | expensiveInitialPackets
  deriving DecidableEq, Repr

namespace Flag

/-- The flags, in the order of their declaration. -/
def all : List Flag := [.maximumWritableStreams, .expensiveInitialPackets]

/-- The name of a flag in a document. -/
def name : Flag → String
  | .maximumWritableStreams => "maximum_writable_streams"
  | .expensiveInitialPackets => "expensive_initial_packets"

/-- The environment variable of a flag. -/
def variableName : Flag → String
  | .maximumWritableStreams => "QUICMETRICS_MAXIMUM_WRITABLE_STREAMS"
  | .expensiveInitialPackets => "QUICMETRICS_EXPENSIVE_INITIAL_PACKETS"

/-- The flag with the given name. -/
def ofName? (s : String) : Option Flag := all.find? fun flag => flag.name == s

end Flag

/-- **A setting of the flags.** A flag may be set to any value; it is on if
that counts as true. -/
structure Flags where
  /-- The setting of `Flag.maximumWritableStreams`. -/
  maximumWritableStreams : Value := .bool false
  /-- The setting of `Flag.expensiveInitialPackets`. -/
  expensiveInitialPackets : Value := .bool false
  deriving Repr

namespace Flags

instance : Inhabited Flags := ⟨⟨.bool false, .bool false⟩⟩

/-- The setting in which each flag is on or off as told. -/
def ofBools (setting : Flag → Bool) : Flags :=
  ⟨.bool (setting .maximumWritableStreams), .bool (setting .expensiveInitialPackets)⟩

/-- The setting with every flag off. -/
def off : Flags := ofBools fun _ => false

/-- The setting with every flag on. -/
def on : Flags := ofBools fun _ => true

/-- The value a flag is set to. -/
def get (flags : Flags) : Flag → Value
  | .maximumWritableStreams => flags.maximumWritableStreams
  | .expensiveInitialPackets => flags.expensiveInitialPackets

/-- The setting with one flag changed. -/
def set (flags : Flags) (flag : Flag) (v : Value) : Flags :=
  match flag with
  | .maximumWritableStreams => { flags with maximumWritableStreams := v }
  | .expensiveInitialPackets => { flags with expensiveInitialPackets := v }

/-- The setting given by the names of flags; no other name is taken. -/
def ofFields? (fields : List (String × Value)) : Option Flags :=
  fields.foldlM (fun flags (name, v) => (Flag.ofName? name).map fun flag => flags.set flag v) off

/-- **Whether a flag is on.** -/
def isOn (flags : Flags) (flag : Flag) : Bool := (flags.get flag).truthy

@[simp] theorem isOn_ofBools (setting : Flag → Bool) (flag : Flag) :
    (ofBools setting).isOn flag = setting flag := by
  cases flag <;> rfl

/-- The names of what a setting has besides its flags: its operations, and
what every record of fields answers to. -/
def operationNames : List String :=
  ["all_enabled", "is_enabled", "load", "to_dict", "__annotations__", "__class__",
    "__dataclass_fields__", "__dataclass_params__", "__delattr__", "__dict__", "__dir__",
    "__doc__", "__eq__", "__format__", "__ge__", "__getattribute__", "__getstate__", "__gt__",
    "__hash__", "__init__", "__init_subclass__", "__le__", "__lt__", "__match_args__",
    "__module__", "__ne__", "__new__", "__reduce__", "__reduce_ex__", "__repr__",
    "__setattr__", "__sizeof__", "__str__", "__subclasshook__"]

/-- **Whether what a name stands for is on.** A name that is not a flag's
stands for nothing, or for an operation, which counts as true. -/
def isEnabled (flags : Flags) (name : String) : Bool :=
  match Flag.ofName? name with
  | some flag => flags.isOn flag
  | none => operationNames.contains name

/-- Whether what a definition asks for is on; one that asks for nothing always
is. -/
def permits (flags : Flags) : Option Flag → Bool
  | some flag => flags.isOn flag
  | none => true

/-- The flags with their values. -/
def entries (flags : Flags) : List (String × Value) :=
  Flag.all.map fun flag => (flag.name, flags.get flag)

end Flags

end QuicTelemetry
