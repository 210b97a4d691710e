import QuicTelemetry.Proofs.Store.Names
import QuicTelemetry.Proofs.Store.Requests
import QuicTelemetry.Settings

/-!
# Families that share an instrument

Each family of a store over a pipeline has its place among the instruments, and the
instrument there is the one of its identity (`Metered.IsFiled`). Instruments have
identities of their own, so **two families feed one instrument exactly if their
identities are the same** (`Metered.IsFiled.place_eq_iff`): their kinds, their help
texts, and their names in lower case without blanks around them.

A name in lower case still ends in the name of its metric
(`Pipeline.identifyingName_qualify`), so two metrics never share an instrument.
-/

namespace QuicTelemetry

/-! ## Identifying names of metrics -/

/-- The lower case of a text that ends in small letters ends in them. -/
theorem Text.lowerAfter_append {name : List Char} (hname : ∀ c ∈ name, isSmall c = true)
    (cs before : List Char) : ∃ lowered, lowerAfter before (cs ++ name) = lowered ++ name := by
  induction cs generalizing before with
  | nil =>
    refine ⟨[], ?_⟩
    show lowerAfter before name = name
    rw [lowerAfter_of_ascii fun c hc => (lowerChar_of_isSmall (hname c hc)).1]
    exact (List.map_congr_left fun c hc => (lowerChar_of_isSmall (hname c hc)).2.2).trans
      (List.map_id' name)
  | cons c cs ih =>
    obtain ⟨lowered, hlowered⟩ := ih (c :: before)
    rw [List.cons_append, lowerAfter, hlowered, ← List.append_assoc]
    exact ⟨_, rfl⟩

namespace Pipeline

/-- A small letter is no blank. -/
theorem isMargin_of_isSmall {c : Char} (h : Text.isSmall c = true) : isMargin c = false :=
  (simple_of_isNameChar (isNameChar_of_isSmall h)).2.2

/-- Nothing is left off from a text that starts with no blank. -/
theorem dropWhile_isMargin {name : List Char} (hname : ∀ c ∈ name, isMargin c = false)
    (rest : List Char) (hne : name ≠ []) : (name ++ rest).dropWhile isMargin = name ++ rest := by
  cases name with
  | nil => exact absurd rfl hne
  | cons c name =>
    rw [List.cons_append, List.dropWhile_cons, hname c List.mem_cons_self]
    rfl

/-- **Without the blanks around it**, a text ends as before in what has no
blank. -/
theorem exists_trim_append {name : List Char} (hname : ∀ c ∈ name, isMargin c = false)
    (hne : name ≠ []) (cs : List Char) : ∃ front,
      (((cs ++ name).dropWhile isMargin).reverse.dropWhile isMargin).reverse = front ++ name := by
  obtain ⟨front, hfront⟩ : ∃ front, (cs ++ name).dropWhile isMargin = front ++ name := by
    rw [List.dropWhile_append]
    split
    · exact ⟨[], by simpa using dropWhile_isMargin hname [] hne⟩
    · exact ⟨_, rfl⟩
  refine ⟨front, ?_⟩
  have hback : (name.reverse ++ front.reverse).dropWhile isMargin
      = name.reverse ++ front.reverse :=
    dropWhile_isMargin (fun c hc => hname c (List.mem_reverse.mp hc)) front.reverse
      (by simpa using hne)
  rw [hfront, List.reverse_append, hback, List.reverse_append, List.reverse_reverse,
    List.reverse_reverse]

/-- **The identifying name of a metric ends in its name.** -/
theorem identifyingName_qualify {metric : Metric} (h : metric ∈ Catalogue.all)
    (space : Option String) :
    ∃ front, (identifyingName (qualify space metric.name)).toList = front ++ metric.name.toList := by
  have hsmall := (Catalogue.isSmall_name metric h).2
  obtain ⟨front, hfront⟩ := exists_trim_append (fun c hc => isMargin_of_isSmall (hsmall c hc))
    (Catalogue.getLast?_name_ne metric h).1 (QuicTelemetry.front space).toList
  unfold identifyingName Text.lower
  dsimp only
  rw [qualify_eq_append, String.toList_append, hfront, String.toList_ofList, String.toList_ofList]
  exact Text.lowerAfter_append hsmall front []

/-- **Two metrics have different identifying names**, in whichever namespaces. -/
theorem eq_of_identifyingName_eq {metric metric' : Metric} (h : metric ∈ Catalogue.all)
    (h' : metric' ∈ Catalogue.all) {space space' : Option String}
    (heq : identifyingName (qualify space metric.name)
      = identifyingName (qualify space' metric'.name)) : metric = metric' := by
  obtain ⟨front, hfront⟩ := identifyingName_qualify h space
  obtain ⟨front', hfront'⟩ := identifyingName_qualify h' space'
  have hends : front ++ (metric.name.toList ++ "".toList)
      = front' ++ (metric'.name.toList ++ "".toList) := by
    have hlists := hfront.symm.trans ((congrArg String.toList heq).trans hfront')
    simpa using hlists
  exact (eq_of_append_eq h h' (Exposition.nil_mem_endings _) (Exposition.nil_mem_endings _) hends).2.1

/-- A text without blanks at its ends is told by its lower case. -/
theorem identifyingName_of_ends {name : String} {c d : Char} {back front : List Char}
    (hfirst : name.toList = c :: back) (hlast : name.toList = front ++ [d])
    (hc : isMargin c = false) (hd : isMargin d = false) : identifyingName name = Text.lower name := by
  have hdrop {c : Char} (hc : isMargin c = false) (rest : List Char) :
      (c :: rest).dropWhile isMargin = c :: rest :=
    dropWhile_isMargin (List.forall_mem_singleton.mpr hc) rest (List.cons_ne_nil c [])
  have hreverse : name.toList.reverse = d :: front.reverse := by
    rw [hlast, List.reverse_append]
    rfl
  unfold identifyingName
  dsimp only
  rw [hfirst, hdrop hc, ← hfirst, hreverse, hdrop hd, ← hreverse, List.reverse_reverse,
    String.ofList_toList]

/-- A namespace that settings accept is one, unless it is empty. -/
theorem isSpace_of_accepted {space : String} (hspace : Settings.spaceFault? (.text space) = none)
    (hne : space ≠ "") : Settings.isSpace space = true := by
  have htruthy : (Value.text space).truthy = true := bne_iff_ne.mpr hne
  unfold Settings.spaceFault? at hspace
  rw [htruthy] at hspace
  by_contra hnot
  simp [hnot] at hspace

/-- A namespace starts with no blank and is simple. -/
theorem exists_of_isSpace {space : String} (h : Settings.isSpace space = true) :
    (∃ c back, space.toList = c :: back ∧ isMargin c = false) ∧ Text.IsSimple space := by
  have hword {c : Char} (hc : (c.isAlphanum || c == '_') = true) :
      isMargin c = false ∧ c.toNat < 128 ∧ Text.isPlain c = true := by
    have hchar : isNameChar c = true := by
      rcases (Bool.or_eq_true ..).mp hc with hc | hc
      · exact (Bool.or_eq_true ..).mpr (.inl hc)
      · rw [beq_iff_eq.mp hc]
        rfl
    obtain ⟨hascii, hplain, hmargin⟩ := simple_of_isNameChar hchar
    exact ⟨hmargin, hascii, hplain⟩
  -- a line end may follow the word
  obtain ⟨ending, hlist, hending⟩ : ∃ ending, space.toList
      = (if space.toList.getLast? = some '\n' then space.toList.dropLast else space.toList) ++ ending
      ∧ ∀ c ∈ ending, c = '\n' := by
    split
    · next hlast =>
      exact ⟨['\n'], (List.dropLast_append_getLast? _ hlast).symm, List.forall_mem_singleton.mpr rfl⟩
    · exact ⟨[], (List.append_nil _).symm, fun _ hc => absurd hc List.not_mem_nil⟩
  unfold Settings.isSpace at h
  dsimp only at h
  generalize (if space.toList.getLast? = some '\n' then space.toList.dropLast else space.toList)
    = word at h hlist
  cases word with
  | nil => exact absurd h Bool.false_ne_true
  | cons c rest =>
    simp only [Bool.and_eq_true, List.all_eq_true] at h
    obtain ⟨hc, hrest⟩ := h
    have hc' : (c.isAlphanum || c == '_') = true := by
      unfold Char.isAlphanum
      rcases (Bool.or_eq_true ..).mp hc with hc | hc <;> simp [hc]
    refine ⟨⟨c, rest ++ ending, hlist, (hword hc').1⟩, fun d hd => ?_⟩
    rw [hlist] at hd
    rcases List.mem_append.mp hd with hd | hd
    · rcases List.mem_cons.mp hd with rfl | hd
      · exact (hword hc').2
      · exact (hword (hrest d hd)).2
    · rw [hending d hd]
      decide

/-- **In a namespace that settings accept** it is the namespace in lower case that
tells the name. -/
theorem identifyingName_of_accepted {space : String}
    (hspace : Settings.spaceFault? (.text space) = none) {metric : Metric}
    (h : metric ∈ Catalogue.all) :
    identifyingName (qualify (Value.text space).space? metric.name)
      = qualify (Value.text (Text.lower space)).space? metric.name := by
  have hsmall := (Catalogue.isSmall_name metric h).2
  have hne := (Catalogue.getLast?_name_ne metric h).1
  have hlast (space : Option String) : (qualify space metric.name).toList
      = ((QuicTelemetry.front space).toList ++ metric.name.toList.dropLast)
        ++ [metric.name.toList.getLast hne] := by
    rw [qualify_eq_append, String.toList_append, List.append_assoc, List.dropLast_concat_getLast]
  have hmargin := isMargin_of_isSmall (hsmall _ (List.getLast_mem hne))
  by_cases hempty : space = ""
  · subst hempty
    have hfirst := (List.cons_head_tail hne).symm
    exact (identifyingName_of_ends hfirst (hlast none)
      (isMargin_of_isSmall (hsmall _ (List.head_mem hne))) hmargin).trans
        (Catalogue.lower_name metric h)
  · have htruthy : (Value.text space).truthy = true := bne_iff_ne.mpr hempty
    obtain ⟨⟨c, back, hfirst, hc⟩, hsimple⟩ := exists_of_isSpace (isSpace_of_accepted hspace hempty)
    have hspace? : (Value.text space).space? = some space := if_pos htruthy
    have hlower : (Value.text (Text.lower space)).space? = some (Text.lower space) := by
      refine if_pos (bne_iff_ne.mpr fun heq => hempty ?_)
      have hlength := Text.toList_lower_of_ascii fun c hc => (hsimple c hc).1
      rw [heq] at hlength
      exact String.toList_inj.mp (List.map_eq_nil_iff.mp hlength.symm)
    have hlist : (qualify (some space) metric.name).toList
        = c :: (back ++ ("_" ++ metric.name).toList) := by
      show (space ++ "_" ++ metric.name).toList = _
      rw [String.append_assoc, String.toList_append, hfirst]
      rfl
    rw [hspace?, hlower, identifyingName_of_ends hlist (hlast (some space)) hc hmargin]
    exact lower_qualify h (Text.isSimple_append.mpr
      ⟨Text.isSimple_append.mpr ⟨hsimple, Text.isSimple_underscore⟩, Catalogue.isSimple_name metric h⟩)

/-- **Names of a metric in two namespaces that settings accept** are the same if the
namespaces are the same in lower case. -/
theorem identifyingName_eq_iff {space space' : String}
    (hspace : Settings.spaceFault? (.text space) = none)
    (hspace' : Settings.spaceFault? (.text space') = none) {metric : Metric}
    (h : metric ∈ Catalogue.all) :
    identifyingName (qualify (Value.text space).space? metric.name)
        = identifyingName (qualify (Value.text space').space? metric.name)
      ↔ Text.lower space = Text.lower space' := by
  rw [identifyingName_of_accepted hspace h, identifyingName_of_accepted hspace' h]
  constructor
  · intro heq
    exact Value.space?_text_inj (eq_of_qualify_eq_qualify h h heq).1
  · intro heq
    rw [heq]

/-! ## Instruments in order -/

/-- **A pipeline in order**: its instruments differ in their identities, were
asked for, and are named by their identities. -/
structure IsOrderly (p : Pipeline) : Prop where
  /-- The identities differ. -/
  distinct : p.ids.Nodup
  /-- They were asked for. -/
  asked : p.IsConsistent
  /-- They name the instruments. -/
  named : ∀ i ∈ p.instruments, i.name = i.id.name

variable {p p' : Pipeline} {id : InstrumentId} {name : String}
  {result : Except Fault Instrument × Pipeline}

/-- A new pipeline is in order. -/
theorem isOrderly_of_new (hinstruments : p.instruments = []) : p.IsOrderly := by
  refine ⟨?_, ?_, ?_⟩
  · unfold ids
    rw [hinstruments]
    exact List.nodup_nil
  · intro id hid
    unfold ids at hid
    rw [hinstruments] at hid
    cases hid
  · intro i hi
    rw [hinstruments] at hi
    cases hi

/-- A name that an instrument may have has no blanks around it. -/
theorem identifyingName_of_isName (h : isName name = true) :
    identifyingName name = Text.lower name := by
  have hmargin : ∀ c ∈ name.toList, isMargin c = false := fun c hc =>
    (simple_of_isNameChar (isNameChar_of_isName h c hc)).2.2
  have hne : name.toList ≠ [] := by
    intro hnil
    unfold isName at h
    rw [hnil] at h
    exact absurd h Bool.false_ne_true
  exact identifyingName_of_ends (List.cons_head_tail hne).symm (List.dropLast_concat_getLast hne).symm
    (hmargin _ (List.head_mem hne)) (hmargin _ (List.getLast_mem hne))

theorem SameInstruments.isOrderly (h : p.SameInstruments p') (hp : p.IsOrderly) : p'.IsOrderly := by
  refine ⟨h.ids ▸ hp.distinct, h.isConsistent hp.asked, fun i hi => ?_⟩
  have hmem : (i.id, i.name) ∈ p'.instruments.map fun i => (i.id, i.name) :=
    List.mem_map.mpr ⟨i, hi, rfl⟩
  rw [h.made] at hmem
  obtain ⟨i', hi', heq⟩ := List.mem_map.mp hmem
  obtain ⟨hid, hname⟩ := Prod.mk.inj heq
  rw [← hid, ← hname]
  exact hp.named i' hi'

/-- **Asking for an instrument** keeps a pipeline in order. -/
theorem Creates.isOrderly (h : p.Creates id name result) (hp : p.IsOrderly)
    (hid : id.name = identifyingName name) : result.2.IsOrderly := by
  have hasked := (h.keeps hp.asked).1
  cases h with
  | found => exact hp
  | lost => exact hp
  | refused => exact ⟨hp.distinct, hasked, hp.named⟩
  | made hnew hname =>
    refine ⟨?_, hasked, fun i hi => ?_⟩
    · show (List.map _ (_ ++ [_])).Nodup
      rw [List.map_append]
      exact List.nodup_append.mpr ⟨hp.distinct, List.nodup_singleton _, fun other hother new hnew' => by
        obtain rfl := List.mem_singleton.mp hnew'
        rintro rfl
        exact hnew (hp.asked _ hother)⟩
    · rcases List.mem_append.mp hi with hi | hi
      · exact hp.named i hi
      · obtain rfl := List.mem_singleton.mp hi
        exact (identifyingName_of_isName hname).symm.trans hid.symm

/-- **Where an instrument is**: those that were made stay where they are, and the
one that is given is of the identity that was asked for. -/
theorem Creates.placed (h : p.Creates id name result) :
    (∀ (k : Nat) other, p.ids[k]? = some other → result.2.ids[k]? = some other)
      ∧ ∀ instrument, result.1 = .ok instrument → result.2.ids[instrument.place]? = some id := by
  cases h with
  | @found i place _ hplace hid =>
    refine ⟨fun _ _ h => h, fun instrument hok => ?_⟩
    cases hok
    show (List.map _ _)[place]? = _
    rw [List.getElem?_map, hplace]
    exact congrArg some hid
  | lost => exact ⟨fun _ _ h => h, fun _ hok => nomatch hok⟩
  | refused => exact ⟨fun _ _ h => h, fun _ hok => nomatch hok⟩
  | made =>
    have hids : Pipeline.ids { p with
        asked := p.asked ++ [id], instruments := p.instruments ++ [p.made id name] }
        = p.ids ++ [id] := List.map_append
    rw [hids]
    refine ⟨fun k other hother => ?_, fun instrument hok => ?_⟩
    · rw [List.getElem?_append_left (List.getElem?_eq_some_iff.mp hother).1]
      exact hother
    · cases hok
      have hlength : p.ids.length = p.instruments.length := List.length_map _
      rw [← hlength]
      exact List.getElem?_concat_length

end Pipeline

/-! ## Families at their instruments -/

/-- **The identity of a family**, by the name it was registered under. -/
def MeteredFamily.identity (name : String) (f : MeteredFamily) : InstrumentId :=
  ⟨Pipeline.identifyingName name, f.family.shape.instrument, f.family.help⟩

theorem MeteredFamily.identity_eq {f f' : MeteredFamily} (h : f.binding = f'.binding)
    (name : String) : f.identity name = f'.identity name := by
  obtain ⟨-, hrest⟩ := Prod.mk.inj h
  obtain ⟨hshape, hhelp⟩ := Prod.mk.inj hrest
  unfold identity
  rw [hshape, hhelp]

namespace Metered

variable {m m' : Metered Pipeline} {receipt : Receipt} {name name' : String} {f f' : MeteredFamily}

/-- **A family keeps its instrument**, its shape and its help text. -/
theorem Serves.keeps (h : m.Serves receipt m') (hf : m.families.get? name = some f) :
    ∃ f', m'.families.get? name = some f' ∧ f'.binding = f.binding := by
  cases h with
  | idle _ hsame =>
    have hbinding := hsame.families name
    rw [hf] at hbinding
    exact Option.map_eq_some_iff.mp hbinding
  | @asked r shape result _ _ _ =>
    refine ⟨f, ?_, rfl⟩
    unfold claim
    dsimp only
    split
    · rw [Table.get?_push, hf]
      rfl
    · exact hf

/-- **A store whose families are at their instruments.** -/
structure IsFiled (m : Metered Pipeline) : Prop where
  /-- The pipeline is in order. -/
  orderly : m.meter.IsOrderly
  /-- The names of the families are taken. -/
  claimed : ∀ name f, m.families.get? name = some f → name ∈ m.claimed
  /-- The instrument of a family is the one of its identity. -/
  placed : ∀ name f, m.families.get? name = some f →
    m.meter.ids[f.instrument.place]? = some (f.identity name)

/-- A store that was made over a pipeline in order. -/
theorem isFiled_of_new {meter : Pipeline} (h : meter.IsOrderly) : IsFiled { meter } :=
  ⟨h, fun _ _ hf => (nomatch hf), fun _ _ hf => (nomatch hf)⟩

/-- **An action** leaves the families at their instruments. -/
theorem IsFiled.serves (h : m.IsFiled) (hserves : m.Serves receipt m') : m'.IsFiled := by
  cases hserves with
  | idle _ hsame =>
    have hold {name : String} {f' : MeteredFamily} (hf' : m'.families.get? name = some f') :
        ∃ f, m.families.get? name = some f ∧ f.binding = f'.binding := by
      have hbinding := hsame.families name
      rw [hf'] at hbinding
      exact Option.map_eq_some_iff.mp hbinding.symm
    refine ⟨hsame.instruments.isOrderly h.orderly, fun name f' hf' => ?_, fun name f' hf' => ?_⟩
    · obtain ⟨f, hf, -⟩ := hold hf'
      exact hsame.claimed ▸ h.claimed name f hf
    · obtain ⟨f, hf, hbinding⟩ := hold hf'
      have hinstrument : f.instrument = f'.instrument := congrArg Prod.fst hbinding
      rw [hsame.instruments.ids, ← MeteredFamily.identity_eq hbinding name, ← hinstrument]
      exact h.placed name f hf
  | @asked r shape result hshape hfree hcreates =>
    have hnew {name : String} {f' : MeteredFamily}
        (hf' : (m.claim r shape result).families.get? name = some f') :
        m.families.get? name = some f' ∨ (name = r.name ∧ ∃ instrument,
          result.1 = .ok instrument
            ∧ f' = ⟨instrument, { help := r.help, shape, labels := r.labels }⟩) := by
      unfold claim at hf'
      dsimp only at hf'
      split at hf'
      · next instrument hok =>
        rw [Table.get?_push] at hf'
        rcases Option.or_eq_some_iff.mp hf' with hf' | ⟨-, hf'⟩
        · exact .inl hf'
        · split at hf'
          · next heq =>
            cases hf'
            exact .inr ⟨heq.symm, instrument, hok, rfl⟩
          · cases hf'
      · exact .inl hf'
    obtain ⟨hstays, hgiven⟩ := hcreates.placed
    refine ⟨hcreates.isOrderly h.orderly rfl, fun name f' hf' => ?_, fun name f' hf' => ?_⟩
    · rcases hnew hf' with hf | ⟨rfl, -⟩
      · exact List.mem_append_left _ (h.claimed name f' hf)
      · exact List.mem_append_right _ (List.mem_singleton_self _)
    · rcases hnew hf' with hf | ⟨rfl, instrument, hok, rfl⟩
      · exact hstays _ _ (h.placed name f' hf)
      · refine (hgiven instrument hok).trans (congrArg some ?_)
        unfold MeteredFamily.identity
        rw [Registration.instrument_shape hshape]
        rfl

/-- **Two families feed one instrument** exactly if their identities are the
same. -/
theorem IsFiled.place_eq_iff (h : m.IsFiled) (hf : m.families.get? name = some f)
    (hf' : m.families.get? name' = some f') :
    f.instrument.place = f'.instrument.place ↔ f.identity name = f'.identity name' := by
  have hplaced := h.placed name f hf
  have hplaced' := h.placed name' f' hf'
  constructor
  · intro heq
    rw [heq] at hplaced
    exact Option.some.inj (hplaced.symm.trans hplaced')
  · intro heq
    rw [heq] at hplaced
    exact (List.getElem?_inj (List.getElem?_eq_some_iff.mp hplaced).1 h.orderly.distinct).mp
      (hplaced.trans hplaced'.symm)

/-- Whoever does anything with the store leaves the families at their instruments. -/
theorem IsFiled.perform (h : m.IsFiled) (e : StoreAction) :
    ∃ m', ((Store.pipeline m).perform e).2 = .pipeline m' ∧ m'.IsFiled := by
  obtain ⟨m', hstore, hserves⟩ := m.serves_perform e
  exact ⟨m', hstore, h.serves hserves⟩

theorem IsFiled.performAll (h : m.IsFiled) (es : List StoreAction) :
    ∃ m', ((Store.pipeline m).performAll es).2 = .pipeline m' ∧ m'.IsFiled := by
  induction es generalizing m with
  | nil => exact ⟨m, rfl, h⟩
  | cons e es ih =>
    obtain ⟨m', hstore, hfiled⟩ := h.perform e
    rw [Store.performAll_cons, hstore]
    exact ih hfiled

end Metered

end QuicTelemetry
