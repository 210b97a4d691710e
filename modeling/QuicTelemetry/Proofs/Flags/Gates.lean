import QuicTelemetry.Proofs.Facade.Build
import QuicTelemetry.Proofs.Facade.SharedStore
import QuicTelemetry.Proofs.Facade.Sampling
import QuicTelemetry.Proofs.Flags.Loading

/-!
# What a gate lets through

The definition of a metric may be gated by a text, and a facade registers the
definitions whose gate is open. What is asked of a setting is whether *what the text
names* is on, and a setting answers to more names than those of its flags: it has
operations, and each of them counts as true.

So **a gate is open exactly if it is the name of a flag that is on or the name of an
operation** (`Flags.isEnabled_iff`), and the second kind of gate is open in every
setting. A definition behind a closed gate leaves no trace in any store, one behind an
open gate is registered as if it had none, and a facade that was built has registered
the catalogue in this way (`Facade.gates_decide_registration`). Where the gates are
names of flags, as in the catalogue, nothing but the flags decides.
-/

namespace QuicTelemetry

/-! ## Names -/

namespace Flag

theorem mem_all (flag : Flag) : flag ∈ all := by
  cases flag <;> decide

/-- A flag is found by its name, and by no other text. -/
theorem ofName?_eq_some_iff {q : String} {flag : Flag} :
    ofName? q = some flag ↔ flag.name = q := by
  constructor
  · intro hfind
    exact beq_iff_eq.mp (List.find?_some (p := fun flag : Flag => flag.name == q) hfind)
  · rintro rfl
    cases flag <;> decide

/-- No flag has the name of an operation. -/
theorem name_notMem_operationNames (flag : Flag) : flag.name ∉ Flags.operationNames := by
  cases flag <;> decide

end Flag

namespace Flags

/-- **What a text stands for is on** exactly if it is the name of a flag that is on, or
of an operation. -/
theorem isEnabled_iff (flags : Flags) (q : String) :
    flags.isEnabled q = true ↔
      (∃ flag : Flag, flag.name = q ∧ flags.isOn flag = true) ∨ q ∈ operationNames := by
  unfold isEnabled
  split
  · next flag hname =>
    obtain rfl := Flag.ofName?_eq_some_iff.mp hname
    constructor
    · exact fun hon => .inl ⟨flag, rfl, hon⟩
    · rintro (⟨other, hother, hon⟩ | hoperation)
      · rwa [← Flag.eq_of_name_eq (.inr hother)]
      · exact absurd hoperation flag.name_notMem_operationNames
  · next hnone =>
    rw [List.contains_iff_mem]
    refine ⟨.inr, fun h => h.resolve_left ?_⟩
    rintro ⟨flag, hname, -⟩
    rw [Flag.ofName?_eq_some_iff.mpr hname] at hnone
    cases hnone

/-- Under its own name a flag is as it is set. -/
theorem isEnabled_name (flags : Flags) (flag : Flag) :
    flags.isEnabled flag.name = flags.isOn flag := by
  unfold isEnabled
  rw [Flag.ofName?_eq_some_iff.mpr rfl]

/-- A flag that is a truth value is on if it is true. -/
theorem isOn_ofBools_iff (setting : Flag → Bool) (flag : Flag) :
    (ofBools setting).isOn flag = true ↔ (ofBools setting).get flag = .bool true := by
  rw [isOn_ofBools]
  cases flag <;> simp [ofBools, get]

/-- Whether a setting opens a gate; what has no gate is open. -/
def opens (flags : Flags) : Option String → Bool
  | none => true
  | some q => flags.isEnabled q

end Flags

/-! ## Definitions behind gates -/

/-- **A definition with its gate**, which may be any text. -/
structure Gated where
  /-- What is defined. -/
  metric : Metric
  /-- The gate. -/
  gate : Option String := none

/-- The catalogue: each definition is gated by the name of its flag. -/
def Catalogue.gated : List Gated := all.map fun metric => ⟨metric, metric.flag.map Flag.name⟩

namespace Facade

/-- The metrics whose gates are open. -/
def admitted (flags : Flags) (definitions : List Gated) : List Metric :=
  (definitions.filter fun definition => flags.opens definition.gate).map Gated.metric

/-- **Registers the definitions whose gates are open**, in order, up to the first one
that is refused. -/
def registerGated (flags : Flags) (space : Option String) (store : Store) :
    List Gated → Except Fault Unit × Store
  | [] => (.ok (), store)
  | ⟨metric, gate⟩ :: rest =>
    if flags.opens gate then
      match store.register (qualify space metric.name) metric.description (shapeOf metric)
          metric.labels with
      | (.error fault, store) => (.error fault, store)
      | (.ok (), store) => registerGated flags space store rest
    else registerGated flags space store rest

variable (flags : Flags) (space : Option String)

/-- What is registered are the metrics whose gates are open. -/
theorem registerGated_eq (store : Store) (definitions : List Gated) :
    registerGated flags space store definitions
      = registerAll space store (admitted flags definitions) := by
  induction definitions generalizing store with
  | nil => rfl
  | cons definition rest ih =>
    obtain ⟨metric, gate⟩ := definition
    unfold registerGated admitted
    cases hgate : flags.opens gate with
    | false =>
      rw [if_neg Bool.false_ne_true, List.filter_cons_of_neg (by simpa using hgate)]
      exact ih store
    | true =>
      rw [if_pos rfl, List.filter_cons_of_pos (by simpa using hgate), List.map_cons, registerAll]
      rcases store.register (qualify space metric.name) metric.description (shapeOf metric)
        metric.labels with ⟨_ | _, store⟩
      · rfl
      · exact ih store

/-- **What one gate does** among any definitions: closed, it is as if the definition
were not there; open, it is as if the gate were not there. -/
theorem registerGated_of_gate (store : Store) (front rest : List Gated) (metric : Metric)
    (q : String) :
    registerGated flags space store (front ++ ⟨metric, some q⟩ :: rest)
      = registerGated flags space store
          (front ++ if flags.isEnabled q then ⟨metric, none⟩ :: rest else rest) := by
  simp only [registerGated_eq, admitted, List.filter_append]
  cases hgate : flags.isEnabled q with
  | false =>
    rw [List.filter_cons_of_neg (by simpa [Flags.opens] using hgate), if_neg Bool.false_ne_true]
  | true =>
    rw [List.filter_cons_of_pos (by simpa [Flags.opens] using hgate), if_pos rfl,
      List.filter_cons_of_pos rfl, List.map_append, List.map_append]
    rfl

/-- The gates of the catalogue let through what the flags permit. -/
theorem admitted_gated : admitted flags Catalogue.gated = Catalogue.permitted flags := by
  have hopens (metric : Metric) :
      flags.opens (metric.flag.map Flag.name) = flags.permits metric.flag := by
    cases metric.flag with
    | none => rfl
    | some flag => exact flags.isEnabled_name flag
  unfold admitted Catalogue.gated Catalogue.permitted
  rw [List.filter_map, List.map_map]
  simp only [Function.comp_def, hopens, List.map_id']

/-- **The gates decide what is registered.** Where each flag is on or off, what a text
stands for is on exactly if it is the name of a flag that is, or of an operation, which
no flag has. By this alone a definition that is gated by the text is registered or left
out, among any others and over any store, and a facade that is built registers the
catalogue so. -/
theorem gates_decide_registration (setting : Flag → Bool) :
    (∀ q, (Flags.ofBools setting).isEnabled q = true ↔
      (∃ flag : Flag, flag.name = q ∧ (Flags.ofBools setting).get flag = .bool true)
        ∨ q ∈ Flags.operationNames)
    ∧ (∀ flag : Flag, flag.name ∉ Flags.operationNames)
    ∧ (∀ space store front metric q rest,
      registerGated (.ofBools setting) space store (front ++ ⟨metric, some q⟩ :: rest)
        = registerGated (.ofBools setting) space store
            (front ++ if (Flags.ofBools setting).isEnabled q then ⟨metric, none⟩ :: rest
              else rest))
    ∧ ∀ store space logging stamp logger facade records store',
      build store (.ofBools setting) space logging stamp logger = (.ok (facade, records), store') →
        facade.registered = admitted (.ofBools setting) Catalogue.gated
        ∧ ∃ middle, registerGated (.ofBools setting) space.space? store Catalogue.gated
              = (.ok (), middle)
          ∧ store' = (resolveAll space.space? middle
              (unlabelled.filter fun metric => (Flags.ofBools setting).permits metric.flag)).2 := by
  refine ⟨fun q => ?_, Flag.name_notMem_operationNames,
    fun space store front metric q rest => registerGated_of_gate ..,
    fun store space logging stamp logger facade records store' hbuild => ?_⟩
  · simp only [Flags.isEnabled_iff, Flags.isOn_ofBools_iff]
  · obtain ⟨-, -, middle, hregister, hstore⟩ := registerAll_of_build hbuild
    obtain ⟨rfl, -⟩ := eq_of_build (congrArg Prod.fst hbuild)
    refine ⟨(admitted_gated _).symm, middle, ?_, hstore⟩
    rw [registerGated_eq, admitted_gated, hregister]

/-- One flag is on, and so its name is the one gate of the two that is open; a facade is
built over a new memory store and has registered what is admitted. -/
theorem gates_decide_registration_of_one :
    let flags : Flags := .ofBools fun flag => decide (flag = .maximumWritableStreams)
    flags.isEnabled "maximum_writable_streams" = true ∧ flags.isEnabled "nonexistent" = false
      ∧ ∃ facade records store', build .ofMemory flags .null {} "" (.plain loggerName [])
          = (.ok (facade, records), store')
        ∧ facade.registered = admitted flags Catalogue.gated := by
  intro flags
  obtain ⟨hiff, -, -, hbuilt⟩ :=
    gates_decide_registration fun flag => decide (flag = .maximumWritableStreams)
  obtain ⟨records, m, hbuild, -⟩ := build_of flags .null {} "" (.plain loggerName [])
  refine ⟨(hiff _).mpr (.inl ⟨.maximumWritableStreams, rfl, rfl⟩), ?_,
    _, records, _, hbuild, (hbuilt _ _ _ _ _ _ _ _ hbuild).1⟩
  refine Bool.eq_false_iff.mpr fun hon => ?_
  rcases (hiff _).mp hon with ⟨flag, hname, -⟩ | hoperation
  · cases flag <;> exact absurd hname (by decide)
  · exact absurd hoperation (by decide)

/-- **A gate that no flag has may be open**: with every flag off, "load" stands for
something that is on, and a definition that is gated by it is registered. -/
theorem registerGated_load :
    Flags.off.isEnabled "load" = true ∧ (∀ flag : Flag, flag.name ≠ "load")
      ∧ (registerGated .off none .ofMemory [⟨Catalogue.udpDropCount, some "load"⟩]).2.names
        = ["quic_udp_drop_count"] :=
  ⟨by decide, fun flag => by cases flag <;> decide, by decide⟩

end Facade

end QuicTelemetry
