import QuicTelemetry.Proofs.Facade.Instruments
import QuicTelemetry.Proofs.Store.Registration

/-!
# What a pipeline is asked for

A pipeline is asked for an instrument by each registration that finds its name
free. It makes one at most for each identity, which is the name in lower case with
the kind and the help text: who asks for the same again gets the instrument that
was made, and nobody ever gets one if the name was refused in which it was asked
for first (`Pipeline.creates_create`).

So whether a pipeline gives an instrument depends on **the first name that asked
for its identity** (`Pipeline.Grants`, `Store.grants_performAll`), and a registration
fails for that reason or for one that it says (`NewStore.answers_register`).
-/

namespace QuicTelemetry

namespace Pipeline

/-! ## One request -/

/-- The identities of the instruments that were made. -/
def ids (p : Pipeline) : List InstrumentId := p.instruments.map PipelineInstrument.id

/-- The instrument that is made for an identity. -/
def made (p : Pipeline) (id : InstrumentId) (name : String) : PipelineInstrument :=
  { id, name := Text.lower name, bounds := View.boundsFor p.views (Text.lower name) }

/-- **What asking for an instrument does.** -/
inductive Creates (p : Pipeline) (id : InstrumentId) (name : String) :
    Except Fault Instrument × Pipeline → Prop
  /-- The instrument is there. -/
  | found {i : PipelineInstrument} {place : Nat} : id ∈ p.asked → p.instruments[place]? = some i →
    i.id = id → Creates p id name (.ok ⟨id.kind, name, place⟩, p)
  /-- It was refused before. -/
  | lost : id ∈ p.asked → id ∉ p.ids → Creates p id name (.error .missingKey, p)
  /-- It is made. -/
  | made : id ∉ p.asked → isName name = true →
    Creates p id name (.ok ⟨id.kind, name, p.instruments.length⟩,
      { p with asked := p.asked ++ [id], instruments := p.instruments ++ [p.made id name] })
  /-- It is refused. -/
  | refused : id ∉ p.asked → isName name = false →
    Creates p id name (.error .badInstrument, { p with asked := p.asked ++ [id] })

/-- **Asking for an instrument** by its identity. -/
theorem creates_create (p : Pipeline) (kind : InstrumentKind) (name help : String) :
    p.Creates ⟨identifyingName name, kind, help⟩ name (p.create kind name help) := by
  unfold create
  dsimp only
  split
  · next hcontains =>
    have hasked := List.contains_iff_mem.mp hcontains
    split
    · next place hplace =>
      obtain ⟨hlt, hid, -⟩ := List.findIdx?_eq_some_iff_getElem.mp hplace
      exact .found hasked (List.getElem?_eq_getElem hlt) (of_decide_eq_true hid)
    · next hnone =>
      refine .lost hasked fun hmem => ?_
      obtain ⟨i, hi, hid⟩ := List.mem_map.mp hmem
      have hfalse := List.findIdx?_eq_none_iff.mp hnone i hi
      rw [decide_eq_false_iff_not] at hfalse
      exact hfalse hid
  · next hcontains =>
    have hasked := fun hmem => hcontains (List.contains_iff_mem.mpr hmem)
    split
    · next hname => exact .made hasked hname
    · next hname => exact .refused hasked (Bool.eq_false_iff.mpr hname)

/-- **Whether a pipeline gives the instrument** of an identity to a name: if the
identity was asked for before, it must have been made; otherwise the name must be
one that an instrument may have. -/
def Grants (p : Pipeline) (id : InstrumentId) (name : String) : Prop :=
  if id ∈ p.asked then id ∈ p.ids else isName name = true

instance (p : Pipeline) (id : InstrumentId) (name : String) : Decidable (p.Grants id name) :=
  inferInstanceAs (Decidable (if id ∈ p.asked then id ∈ p.ids else isName name = true))

/-- A pipeline that made no instrument without being asked. -/
def IsConsistent (p : Pipeline) : Prop := ∀ id ∈ p.ids, id ∈ p.asked

variable {p p' : Pipeline} {id : InstrumentId} {name : String}
  {result : Except Fault Instrument × Pipeline}

/-- **An instrument is given exactly if it is granted.** -/
theorem Creates.reply (h : p.Creates id name result) :
    (p.Grants id name → ∃ place, result.1 = .ok ⟨id.kind, name, place⟩)
      ∧ (¬ p.Grants id name → result.1 = .error .badInstrument ∨ result.1 = .error .missingKey) := by
  unfold Grants
  cases h with
  | found hasked hplace hid =>
    rw [if_pos hasked]
    exact ⟨fun _ => ⟨_, rfl⟩, fun hnot =>
      absurd (List.mem_map.mpr ⟨_, List.mem_of_getElem? hplace, hid⟩) hnot⟩
  | lost hasked hids =>
    rw [if_pos hasked]
    exact ⟨fun hmem => absurd hmem hids, fun _ => .inr rfl⟩
  | made hasked hname =>
    rw [if_neg hasked]
    exact ⟨fun _ => ⟨_, rfl⟩, fun hnot => absurd hname hnot⟩
  | refused hasked hname =>
    rw [if_neg hasked, hname]
    exact ⟨fun htrue => absurd htrue Bool.false_ne_true, fun _ => .inl rfl⟩

/-- **What is granted afterwards**: the identity that was asked for is settled. -/
theorem Creates.keeps (h : p.Creates id name result) (hp : p.IsConsistent) :
    result.2.IsConsistent ∧ ∀ other n,
      result.2.Grants other n ↔ p.Grants other (if other = id then name else n) := by
  have hsettled (hasked : id ∈ p.asked) (other : InstrumentId) (n : String) :
      p.Grants other n ↔ p.Grants other (if other = id then name else n) := by
    split
    · next heq =>
      unfold Grants
      rw [heq, if_pos hasked, if_pos hasked]
    · rfl
  have hfresh {p' : Pipeline} (hasked : id ∉ p.asked) (hasked' : p'.asked = p.asked ++ [id])
      (hids : ∀ other, other ∈ p'.ids ↔ other ∈ p.ids ∨ (other = id ∧ isName name = true))
      (other : InstrumentId) (n : String) :
      p'.Grants other n ↔ p.Grants other (if other = id then name else n) := by
    unfold Grants
    rw [hasked', hids]
    by_cases heq : other = id
    · subst heq
      rw [if_pos (by simp), if_neg hasked, if_pos rfl]
      exact ⟨fun hor => (hor.resolve_left fun hmem => hasked (hp _ hmem)).2,
        fun hname => .inr ⟨rfl, hname⟩⟩
    · simp [heq]
  cases h with
  | found hasked => exact ⟨hp, hsettled hasked⟩
  | lost hasked => exact ⟨hp, hsettled hasked⟩
  | made hasked hname =>
    have hids : Pipeline.ids { p with
        asked := p.asked ++ [id], instruments := p.instruments ++ [p.made id name] }
        = p.ids ++ [id] := List.map_append
    refine ⟨fun other hother => ?_, hfresh hasked rfl fun other => ?_⟩
    · rcases List.mem_append.mp (hids ▸ hother) with hother | hother
      · exact List.mem_append_left _ (hp other hother)
      · exact List.mem_append_right _ hother
    · rw [hids]
      simp [hname]
  | refused hasked hname =>
    refine ⟨fun other hother => List.mem_append_left _ (hp other hother),
      hfresh hasked rfl fun other => ?_⟩
    simp [ids, hname]

/-! ## Everything else -/

/-- **The same instruments**, whatever they have aggregated. -/
structure SameInstruments (p p' : Pipeline) : Prop where
  /-- The same was asked for. -/
  asked : p'.asked = p.asked
  /-- The same was made, under the same names. -/
  made : p'.instruments.map (fun i => (i.id, i.name)) = p.instruments.map fun i => (i.id, i.name)

theorem SameInstruments.refl (p : Pipeline) : p.SameInstruments p := ⟨rfl, rfl⟩

theorem SameInstruments.trans {p'' : Pipeline} (h : p.SameInstruments p')
    (h' : p'.SameInstruments p'') : p.SameInstruments p'' :=
  ⟨h'.asked.trans h.asked, h'.made.trans h.made⟩

theorem SameInstruments.ids (h : p.SameInstruments p') : p'.ids = p.ids := by
  have hfst := congrArg (List.map Prod.fst) h.made
  rw [List.map_map, List.map_map] at hfst
  exact hfst

theorem SameInstruments.grants (h : p.SameInstruments p') (id : InstrumentId) (name : String) :
    p'.Grants id name ↔ p.Grants id name := by
  unfold Grants
  rw [h.asked, h.ids]

theorem SameInstruments.isConsistent (h : p.SameInstruments p') (hp : p.IsConsistent) :
    p'.IsConsistent := by
  unfold IsConsistent
  rw [h.asked, h.ids]
  exact hp

/-- **Measuring** makes no instrument. -/
theorem sameInstruments_measure (p : Pipeline) (instrument : Instrument) (v : Value)
    (attributes : Attributes) : p.SameInstruments (p.measure instrument v attributes).2 := by
  cases hi : p.instruments[instrument.place]? with
  | none =>
    unfold measure
    rw [hi]
    cases Amount.ofValue? v <;> exact .refl p
  | some i =>
    obtain ⟨hid, hname⟩ := i.measured_keeps v attributes
    rw [measure_eq hi]
    exact ⟨rfl, map_set_of_eq hi (Prod.ext hid hname)⟩

/-- **Collecting** makes no instrument. -/
theorem sameInstruments_collect (p : Pipeline) : p.SameInstruments p.collect.2 := by
  rcases p.collect_cases with ⟨collected, hcollected, hcollect⟩ | hoverflow
  · rw [hcollect]
    refine ⟨rfl, (List.map_map ..).trans (map_eq_of_map_eq (fun i part hpart => ?_) hcollected)⟩
    obtain ⟨hid, hname, -⟩ := collectInstrument_keeps hpart
    exact Prod.ext hid hname
  · rw [hoverflow]
    exact .refl p

end Pipeline

/-! ## Registrations -/

/-- The instrument that is asked for. -/
def FamilyKind.instrument : FamilyKind → InstrumentKind
  | .counter => .counter
  | .gauge => .gauge
  | .histogram _ => .histogram

/-- **The identity that a registration asks for.** -/
def Registration.instrumentId (r : Registration) : InstrumentId :=
  ⟨Pipeline.identifyingName r.name, r.kind.instrument, r.help⟩

theorem Registration.instrument_shape {r : Registration} {shape : Shape}
    (h : r.shape = .ok shape) : shape.instrument = r.kind.instrument := by
  unfold Registration.shape at h
  split at h
  · cases h
    simp [FamilyKind.instrument, Shape.instrument, *]
  · cases h
    simp [FamilyKind.instrument, Shape.instrument, *]
  · next buckets hkind =>
    rw [hkind]
    cases hbounds : Bounds.ofValue r.name buckets with
    | error fault =>
      rw [hbounds] at h
      cases h
    | ok bounds =>
      rw [hbounds] at h
      cases h
      rfl

/-- **The registration that an action was**, if its name was free and its buckets
in order. -/
def Receipt.claim? : Receipt → Option Registration
  | (.register r, reply) =>
    if (Receipt.taken? (.register r, reply)).isSome then some r else none
  | _ => none

/-- The registrations that found their names free. -/
def claims (log : List Receipt) : List Registration := log.filterMap Receipt.claim?

theorem Receipt.taken?_eq (receipt : Receipt) :
    Receipt.taken? receipt = (Receipt.claim? receipt).map Registration.name := by
  obtain ⟨e, reply⟩ := receipt
  cases e with
  | register r =>
    cases reply with
    | ok _ => rfl
    | error fault =>
      unfold claim? taken? made? spoiled?
      dsimp only
      split <;> rfl
  | _ => rfl

theorem names_claims (log : List Receipt) :
    (claims log).map Registration.name = log.filterMap Receipt.taken? := by
  unfold claims
  rw [List.map_filterMap]
  exact congrArg (List.filterMap · log) (funext fun receipt => (Receipt.taken?_eq receipt).symm)

/-- **The name in which an identity was asked for first**, else the given one. -/
def firstName (log : List Receipt) (id : InstrumentId) (name : String) : String :=
  (((claims log).find? fun r => decide (r.instrumentId = id)).map Registration.name).getD name

theorem firstName_of_none {receipt : Receipt} (h : Receipt.claim? receipt = none)
    (log : List Receipt) (id : InstrumentId) (name : String) :
    firstName (receipt :: log) id name = firstName log id name := by
  unfold firstName claims
  rw [List.filterMap_cons_none h]

theorem firstName_of_some {receipt : Receipt} {r : Registration}
    (h : Receipt.claim? receipt = some r) (log : List Receipt) (id : InstrumentId) (name : String) :
    firstName (receipt :: log) id name
      = if id = r.instrumentId then r.name else firstName log id name := by
  unfold firstName claims
  rw [List.filterMap_cons_some h, List.find?_cons]
  by_cases heq : r.instrumentId = id
  · simp [heq]
  · simp [heq, Ne.symm heq]

/-! ## Actions at a store -/

/-- What a family is bound to: its instrument, its shape and its help text. -/
def MeteredFamily.binding (f : MeteredFamily) : Instrument × Shape × String :=
  (f.instrument, f.family.shape, f.family.help)

namespace Metered

variable {m m' : Metered Pipeline}

/-- **The same families and the same instruments**, whatever was measured. -/
structure SameBindings (m m' : Metered Pipeline) : Prop where
  /-- The names are the same. -/
  claimed : m'.claimed = m.claimed
  /-- The instruments are the same. -/
  instruments : m.meter.SameInstruments m'.meter
  /-- The families are bound as they were. -/
  families : ∀ name, (m'.families.get? name).map MeteredFamily.binding
    = (m.families.get? name).map MeteredFamily.binding

theorem SameBindings.refl (m : Metered Pipeline) : m.SameBindings m :=
  ⟨rfl, .refl _, fun _ => rfl⟩

theorem sameBindings_resolve (m : Metered Pipeline) (name : String) (given : Labelling) :
    m.SameBindings (m.resolve name given).2 := by
  unfold resolve
  cases m.families.get? name with
  | none => exact .refl m
  | some f =>
    dsimp only
    split
    · exact .refl m
    · split
      · exact .refl m
      · exact ⟨rfl, .refl _, fun _ => Table.map_get?_adjust _ _ _ fun _ => by
          unfold MeteredFamily.binding
          rw [Family.shape_ensure, Family.help_ensure]⟩

theorem sameBindings_call (m : Metered Pipeline) (id : SeriesId) (verb : Verb)
    (args : List Value) : m.SameBindings (m.call id verb args).2 := by
  cases hf : m.families.get? id.family with
  | none =>
    unfold call
    rw [hf]
    exact .refl m
  | some f =>
    rcases call_cases hf verb args with
      ⟨fault, hcall⟩ | ⟨argument, amount, m', -, hcall, hcases⟩
    · rw [hcall]
      exact .refl m
    · have hset : m.SameBindings m' := by
        rcases hcases with ⟨rfl, -⟩ | ⟨-, x, rfl⟩
        · exact .refl m'
        · exact ⟨rfl, .refl _, fun _ => Table.map_get?_adjust _ _ _ fun _ => rfl⟩
      rw [hcall]
      exact ⟨hset.claimed, hset.instruments.trans (m'.meter.sameInstruments_measure _ _ _),
        hset.families⟩

/-- The store after a registration that found its name free. -/
def claim (m : Metered Pipeline) (r : Registration) (shape : Shape)
    (result : Except Fault Instrument × Pipeline) : Metered Pipeline :=
  { meter := result.2
    claimed := m.claimed ++ [r.name]
    families :=
      match result.1 with
      | .ok instrument =>
        m.families.push r.name ⟨instrument, { help := r.help, shape, labels := r.labels }⟩
      | .error _ => m.families }

/-- **What an action does to a store over a pipeline**: it asks for an instrument,
or leaves families and instruments as they are. -/
inductive Serves (m : Metered Pipeline) : Receipt → Metered Pipeline → Prop
  /-- Nothing was asked for. -/
  | idle {receipt : Receipt} {m' : Metered Pipeline} : Receipt.claim? receipt = none →
    m.SameBindings m' → Serves m receipt m'
  /-- An instrument was asked for. -/
  | asked {r : Registration} {shape : Shape} {result : Except Fault Instrument × Pipeline} :
    r.shape = .ok shape → r.name ∉ m.claimed → m.meter.Creates r.instrumentId r.name result →
    Serves m (.register r, result.1.map fun _ => ()) (m.claim r shape result)

/-- **A registration** whose buckets are in order: its name is taken, or it asks for
an instrument. -/
theorem perform_register {m : Metered Pipeline} {r : Registration} {shape : Shape}
    (hshape : r.shape = .ok shape) :
    (r.name ∈ m.claimed ∧
        (Store.pipeline m).perform (.register r) = (.error (.schema r.name .taken), .pipeline m))
      ∨ (r.name ∉ m.claimed ∧ ∃ result, m.meter.Creates r.instrumentId r.name result
        ∧ (Store.pipeline m).perform (.register r)
          = (result.1.map fun _ => (), .pipeline (m.claim r shape result))) := by
  have hperform : (Store.pipeline m).perform (.register r)
      = Store.put .pipeline (m.register r.name r.help shape r.labels) :=
    Store.perform_of_shape hshape _
  have hcreates := m.meter.creates_create r.kind.instrument r.name r.help
  rw [hperform]
  unfold Metered.register
  split
  · next hcontains => exact .inl ⟨List.contains_iff_mem.mp hcontains, rfl⟩
  · next hcontains =>
    refine .inr ⟨Store.not_mem_of_contains hcontains, _, hcreates, ?_⟩
    rcases hresult : m.meter.create r.kind.instrument r.name r.help with ⟨outcome, p'⟩
    have hmeter : Meter.create m.meter shape.instrument r.name r.help = (outcome, p') :=
      Registration.instrument_shape hshape ▸ hresult
    dsimp only
    rw [hmeter]
    cases outcome <;> rfl

/-- **One action**, by what is asked for. -/
theorem serves_perform (m : Metered Pipeline) (e : StoreAction) :
    ∃ m', ((Store.pipeline m).perform e).2 = .pipeline m'
      ∧ m.Serves (e, ((Store.pipeline m).perform e).1) m' := by
  cases e with
  | resolve name given => exact ⟨_, rfl, .idle rfl (m.sameBindings_resolve name given)⟩
  | operate id verb args => exact ⟨_, rfl, .idle rfl (m.sameBindings_call id verb args)⟩
  | collect => exact ⟨_, rfl, .idle rfl ⟨rfl, m.meter.sameInstruments_collect, fun _ => rfl⟩⟩
  | register r =>
    cases hshape : r.shape with
    | error fault =>
      rw [Store.perform_of_shape_error hshape]
      refine ⟨m, rfl, .idle ?_ (.refl m)⟩
      simp [Receipt.claim?, Receipt.taken?, Receipt.made?, Receipt.spoiled?, hshape, Except.isOk,
        Except.toBool]
    | ok shape =>
      rcases perform_register (m := m) hshape with
        ⟨-, hperform⟩ | ⟨hfree, result, hcreates, hperform⟩
      · rw [hperform]
        refine ⟨m, rfl, .idle ?_ (.refl m)⟩
        simp [Receipt.claim?, Receipt.taken?, Receipt.made?, Receipt.spoiled?, Fault.isTaken]
      · rw [hperform]
        exact ⟨_, rfl, .asked hshape hfree hcreates⟩

/-- A registration that asked for an instrument is on record. -/
theorem claim?_asked {m : Metered Pipeline} {r : Registration} {shape : Shape}
    {result : Except Fault Instrument × Pipeline} (hshape : r.shape = .ok shape)
    (h : m.meter.Creates r.instrumentId r.name result) :
    Receipt.claim? (.register r, result.1.map fun _ => ()) = some r := by
  have hok : r.shape.isOk = true := hshape ▸ rfl
  have hspoiled {fault : Fault} (hfault : fault.isTaken = false) :
      Receipt.claim? (.register r, .error fault) = some r := by
    unfold Receipt.claim? Receipt.taken?
    dsimp only
    rw [Receipt.spoiled?_of_not_taken hok hfault]
    rfl
  cases h with
  | found => rfl
  | lost => exact hspoiled rfl
  | made => rfl
  | refused => exact hspoiled rfl

/-- **Actions one after the other** settle identities by the first names that asked
for them. -/
theorem grants_performAll {m : Metered Pipeline} (hm : m.meter.IsConsistent)
    (es : List StoreAction) :
    ∃ m', ((Store.pipeline m).performAll es).2 = .pipeline m' ∧ m'.meter.IsConsistent
      ∧ ∀ id name, m'.meter.Grants id name
        ↔ m.meter.Grants id (firstName ((Store.pipeline m).performAll es).1 id name) := by
  induction es generalizing m with
  | nil => exact ⟨m, rfl, hm, fun _ _ => .rfl⟩
  | cons e es ih =>
    obtain ⟨m', hstore, hserves⟩ := m.serves_perform e
    rw [Store.performAll_cons, hstore]
    have hstep : m'.meter.IsConsistent ∧ ∀ log id name,
        m'.meter.Grants id (firstName log id name)
          ↔ m.meter.Grants id
            (firstName ((e, ((Store.pipeline m).perform e).1) :: log) id name) := by
      generalize ((Store.pipeline m).perform e).1 = reply at hserves
      cases hserves with
      | idle hclaim hsame =>
        refine ⟨hsame.instruments.isConsistent hm, fun log id name => ?_⟩
        rw [firstName_of_none hclaim]
        exact hsame.instruments.grants id _
      | asked hshape _ hcreates =>
        obtain ⟨hconsistent, hgrants⟩ := hcreates.keeps hm
        refine ⟨hconsistent, fun log id name => ?_⟩
        rw [firstName_of_some (claim?_asked hshape hcreates)]
        exact hgrants id _
    obtain ⟨m'', hstore', hconsistent, hgrants⟩ := ih hstep.1
    exact ⟨m'', hstore', hconsistent, fun id name => (hgrants id name).trans (hstep.2 _ id name)⟩

end Metered

/-! ## Answers -/

/-- **A registration is answered**: there is the family, or a fault that says of
its name why there is none. -/
def Answers {α : Type} (name : String) (reply : Except Fault α) : Prop :=
  reply.isOk = true ∨ ∃ refusal, reply = .error (.schema name refusal)

/-- The buckets are numbers, if it is a histogram. -/
def Registration.HasBounds (r : Registration) : Prop :=
  ∀ buckets, r.kind = .histogram buckets → ∃ bounds : List Binary64, buckets = .list (bounds.map .real)

/-- Numbers are read as they are. -/
theorem Bounds.ofValue_reals (name : String) (bounds : List Binary64) :
    ofValue name (.list (bounds.map .real)) = check name bounds := by
  have hreals : (bounds.map Value.real).mapM Value.toReal = .ok bounds := by
    induction bounds with
    | nil => rfl
    | cons bound bounds ih =>
      rw [List.map_cons, List.mapM_cons, ih]
      rfl
  unfold ofValue
  simp only [Value.items, Value.items?, bind, Except.bind, hreals]

/-- Numbers that are no bounds are refused as such. -/
theorem Registration.shape_cases {r : Registration} (h : r.HasBounds) :
    r.shape.isOk = true ∨ ∃ refusal, r.shape = .error (.schema r.name refusal) := by
  unfold shape
  split
  · exact .inl rfl
  · exact .inl rfl
  · next buckets hkind =>
    obtain ⟨bounds, rfl⟩ := h buckets hkind
    rw [Bounds.ofValue_reals]
    unfold Bounds.check
    split
    · exact .inr ⟨_, rfl⟩
    · exact .inl rfl

/-- **A store answers a registration**, if a meter below it gives the instrument. -/
theorem Store.answers_perform {s : Store} {r : Registration} (hbounds : r.HasBounds)
    (hgrants : ∀ m, s = .pipeline m → r.name ∉ m.claimed →
      m.meter.Grants r.instrumentId r.name) : Answers r.name (s.perform (.register r)).1 := by
  cases hshape : r.shape with
  | error fault =>
    rcases r.shape_cases hbounds with hok | ⟨refusal, herror⟩
    · rw [hshape] at hok
      cases hok
    · rw [perform_of_shape_error herror]
      exact .inr ⟨refusal, rfl⟩
  | ok shape =>
    have hperform := perform_of_shape hshape s
    cases s with
    | memory m =>
      rw [hperform]
      unfold enter Memory.register
      dsimp only
      split
      · exact .inr ⟨_, rfl⟩
      · exact .inl rfl
    | exposition e =>
      rw [hperform]
      unfold enter Exposition.register
      dsimp only
      split
      · exact .inr ⟨_, rfl⟩
      · split
        · exact .inr ⟨_, rfl⟩
        · exact .inl rfl
    | recorder m =>
      rw [hperform]
      unfold enter Metered.register
      dsimp only
      split
      · exact .inr ⟨_, rfl⟩
      · exact .inl rfl
    | pipeline m =>
      rcases Metered.perform_register (m := m) hshape with
        ⟨-, hperform⟩ | ⟨hfree, result, hcreates, hperform⟩
      · rw [hperform]
        exact .inr ⟨_, rfl⟩
      · obtain ⟨place, hplace⟩ := hcreates.reply.1 (hgrants m rfl hfree)
        rw [hperform, hplace]
        exact .inl rfl

namespace NewStore

/-- A meter below the store made no instrument without being asked. -/
def IsConsistent : NewStore → Prop
  | .pipeline meter => meter.IsConsistent
  | _ => True

/-- **A name is spurned**: it is free, but the meter does not give the instrument
of an identity to the name that asked for it first. -/
def Spurns (f : NewStore) (log : List Receipt) (name : String) (id : InstrumentId) : Prop :=
  match f with
  | .pipeline meter => name ∉ (claims log).map Registration.name
    ∧ ¬ meter.Grants id (firstName log id name)
  | _ => False

/-- **What a store over a meter grants after actions**, and which names are free. -/
theorem grants_after {meter : Pipeline} (hmeter : meter.IsConsistent) (es : List StoreAction) :
    let log := ((NewStore.pipeline meter).store.performAll es).1
    ∃ m, ((NewStore.pipeline meter).store.performAll es).2 = .pipeline m ∧ m.meter.IsConsistent
      ∧ ∀ name id, (NewStore.pipeline meter).Spurns log name id
        ↔ name ∉ m.claimed ∧ ¬ m.meter.Grants id name := by
  intro log
  obtain ⟨m, hstore, hconsistent, hgrants⟩ := Metered.grants_performAll (m := { meter }) hmeter es
  have hnames := ((NewStore.pipeline meter).store.names_performAll es).1
  rw [names_store, List.nil_append, ← names_claims] at hnames
  refine ⟨m, hstore, hconsistent, fun name id => ?_⟩
  have hclaimed : m.claimed = (claims log).map Registration.name := by
    rw [← hnames]
    exact (congrArg Store.names hstore).symm
  rw [hclaimed, hgrants]
  rfl

/-- **A registration is answered unless its name is spurned**, and then the fault
says nothing of the name. -/
theorem answers_register (f : NewStore) (hf : f.IsConsistent) (es : List StoreAction)
    {r : Registration} (hbounds : r.HasBounds) :
    let log := (f.store.performAll es).1
    let reply := ((f.store.performAll es).2.perform (.register r)).1
    (¬ f.Spurns log r.name r.instrumentId → Answers r.name reply)
      ∧ (r.shape.isOk = true → f.Spurns log r.name r.instrumentId →
        reply = .error .badInstrument ∨ reply = .error .missingKey) := by
  intro log reply
  have hkind := (f.store.names_performAll es).2.2.1
  have hother (hne : f.store.kind ≠ .pipeline) : Answers r.name reply :=
    Store.answers_perform hbounds fun m hm => absurd (hkind.symm.trans (congrArg Store.kind hm)) hne
  cases f with
  | memory => exact ⟨fun _ => hother StoreKind.noConfusion, fun _ => False.elim⟩
  | exposition registry => exact ⟨fun _ => hother StoreKind.noConfusion, fun _ => False.elim⟩
  | recorder meter => exact ⟨fun _ => hother StoreKind.noConfusion, fun _ => False.elim⟩
  | pipeline meter =>
    obtain ⟨m, hstore, -, hspurns⟩ := grants_after hf es
    constructor
    · intro hnot
      refine Store.answers_perform hbounds fun m' hm' hfree => ?_
      obtain rfl := Store.pipeline.inj (hstore.symm.trans hm')
      exact Decidable.not_not.mp fun hgrants => hnot ((hspurns _ _).mpr ⟨hfree, hgrants⟩)
    · intro hok hspurned
      obtain ⟨hfree, hnot⟩ := (hspurns _ _).mp hspurned
      cases hshape : r.shape with
      | error fault =>
        rw [hshape] at hok
        cases hok
      | ok shape =>
        rcases Metered.perform_register (m := m) hshape with
          ⟨hmem, -⟩ | ⟨-, result, hcreates, hperform⟩
        · exact absurd hmem hfree
        · show ((Store.perform _ _).1 = _) ∨ ((Store.perform _ _).1 = _)
          rw [hstore, hperform]
          refine (hcreates.reply.2 hnot).imp (fun h => ?_) fun h => ?_ <;> rw [h] <;> rfl

end NewStore

end QuicTelemetry
