import QuicTelemetry.Assembly

/-!
# What decides a flag

A flag has a variable in the environment and an entry in a document, and each may
be missing or hold anything. `Flags.Decides` says which of the two counts: a word of
either list in the variable, else a truth value or a text in the entry, else
nothing, and then the flag is off. **Loading the flags sets each as it is decided,
and the document is read whatever the environment says**
(`Assembly.loadFlags_decided`).

So a flag has to do with its own variable and its own entry only. The variables and
entries of the other flags, entries that no flag has and, where the variable holds a
known word, the whole document could be others and the flag would be the same.
-/

namespace QuicTelemetry

namespace Flag

/-- The variable of a flag has the name of the flag in capitals. -/
theorem variableName_eq (flag : Flag) :
    flag.variableName = "QUICMETRICS_" ++ Text.asciiUpper flag.name := by
  cases flag <;> decide

/-- Each flag has its own variable and its own entry. -/
theorem eq_of_name_eq {flag other : Flag}
    (h : flag.variableName = other.variableName ∨ flag.name = other.name) : flag = other := by
  cases flag <;> cases other <;> simp_all [variableName, name]

end Flag

namespace Flags

/-- Whether a variable holds a word that is known, letter case aside. -/
def IsTold (setting? : Option String) : Prop :=
  ∃ s ∈ setting?, Text.lower s ∈ onWords ++ offWords

/-- **What decides whether a flag is on**: its variable if that holds a known word,
else its entry if that is a truth value or a text, else nothing. -/
inductive Decides (setting? : Option String) (datum? : Option Document.Datum) : Bool → Prop
  | on {s : String} (hvariable : setting? = some s) (hword : Text.lower s ∈ onWords) :
    Decides setting? datum? true
  | off {s : String} (hvariable : setting? = some s) (hword : Text.lower s ∈ offWords) :
    Decides setting? datum? false
  | truth {b : Bool} (htold : ¬ IsTold setting?) (hentry : datum? = some (.bool b)) :
    Decides setting? datum? b
  | text {s : String} (htold : ¬ IsTold setting?) (hentry : datum? = some (.text s)) :
    Decides setting? datum? (decide (Text.lower s ∈ onWords))
  | nothing (htold : ¬ IsTold setting?) (htruth : ∀ b, datum? ≠ some (.bool b))
      (htext : ∀ s, datum? ≠ some (.text s)) : Decides setting? datum? false

/-- No word switches a flag on and off. -/
theorem notMem_offWords {word : String} (hon : word ∈ onWords) : word ∉ offWords := by
  revert word
  decide

theorem ofWord?_of_mem_onWords {s : String} (h : Text.lower s ∈ onWords) :
    ofWord? s = some true :=
  if_pos (List.contains_iff_mem.mpr h)

theorem ofWord?_of_mem_offWords {s : String} (h : Text.lower s ∈ offWords) :
    ofWord? s = some false := by
  have hon : ¬ onWords.contains (Text.lower s) := fun hon =>
    notMem_offWords (List.contains_iff_mem.mp hon) h
  exact (if_neg hon).trans (if_pos (List.contains_iff_mem.mpr h))

theorem ofWord?_of_notMem {s : String} (h : Text.lower s ∉ onWords ++ offWords) :
    ofWord? s = none := by
  obtain ⟨hon, hoff⟩ := not_or.mp (mt List.mem_append.mpr h)
  have hcontains (words : List String) (hword : Text.lower s ∉ words) :
      ¬ words.contains (Text.lower s) := mt List.contains_iff_mem.mp hword
  exact (if_neg (hcontains _ hon)).trans (if_neg (hcontains _ hoff))

/-- What a variable and an entry say together. -/
def said (setting? : Option String) (datum? : Option Document.Datum) : Bool :=
  ((setting?.bind ofWord?).or (datum?.bind ofDatum?)).getD false

/-- A variable that holds no known word leaves it to the entry. -/
theorem said_of_not_isTold {setting? : Option String} (h : ¬ IsTold setting?)
    (datum? : Option Document.Datum) :
    said setting? datum? = (datum?.bind ofDatum?).getD false := by
  have hnone : setting?.bind ofWord? = none := by
    cases setting? with
    | none => rfl
    | some s => exact ofWord?_of_notMem fun hword => h ⟨s, rfl, hword⟩
  rw [said, hnone, Option.none_or]

/-- What is decided is what the two say. -/
theorem Decides.said_eq {setting? : Option String} {datum? : Option Document.Datum} {b : Bool}
    (h : Decides setting? datum? b) : said setting? datum? = b := by
  cases h with
  | on hvariable hword =>
    rw [said, hvariable, Option.bind_some, ofWord?_of_mem_onWords hword]
    rfl
  | off hvariable hword =>
    rw [said, hvariable, Option.bind_some, ofWord?_of_mem_offWords hword]
    rfl
  | truth htold hentry =>
    rw [said_of_not_isTold htold, hentry]
    rfl
  | @text s htold hentry =>
    rw [said_of_not_isTold htold, hentry]
    show onWords.contains (Text.lower s) = _
    rw [List.contains_eq_mem]
  | nothing htold htruth htext =>
    rw [said_of_not_isTold htold]
    cases datum? with
    | none => rfl
    | some datum =>
      cases datum with
      | bool b => exact absurd rfl (htruth b)
      | text s => exact absurd rfl (htext s)
      | other | collection => rfl

/-- Something is decided whatever the variable and the entry are. -/
theorem exists_decides (setting? : Option String) (datum? : Option Document.Datum) :
    ∃ b, Decides setting? datum? b := by
  by_cases htold : IsTold setting?
  · obtain ⟨s, hvariable, hword⟩ := htold
    exact (List.mem_append.mp hword).elim (fun hon => ⟨_, .on hvariable hon⟩)
      fun hoff => ⟨_, .off hvariable hoff⟩
  · match datum? with
    | some (.bool b) => exact ⟨_, .truth htold rfl⟩
    | some (.text s) => exact ⟨_, .text htold rfl⟩
    | none | some .other | some .collection => exact ⟨_, .nothing htold nofun nofun⟩

theorem decides_said (setting? : Option String) (datum? : Option Document.Datum) :
    Decides setting? datum? (said setting? datum?) := by
  obtain ⟨b, h⟩ := exists_decides setting? datum?
  rw [h.said_eq]
  exact h

/-- **Where the variable holds a known word** the entry could be any other. -/
theorem said_of_isTold {setting? : Option String} (h : IsTold setting?)
    (datum? other? : Option Document.Datum) : said setting? datum? = said setting? other? := by
  obtain ⟨s, hvariable, hword⟩ := h
  rcases List.mem_append.mp hword with hon | hoff
  · rw [(Decides.on hvariable hon).said_eq, (Decides.on hvariable hon).said_eq]
  · rw [(Decides.off hvariable hoff).said_eq, (Decides.off hvariable hoff).said_eq]

end Flags

namespace Assembly

/-- **The entries that flags are loaded from**: those of the document at a path,
none if there is no path or no document. -/
def entriesAt (files : Files) (path : Value) : Except Fault (Table String Document.Datum) := do
  match ← document? files path with
  | some document => Document.read document
  | none => return .empty

/-- Loading is reading the entries, and then resolving the flags. -/
theorem loadFlags_eq (env : Environment) (files : Files) (path : Value) :
    loadFlags env files path = (entriesAt files path).map fun entries =>
      Flags.ofBools (Flags.resolve env entries) := by
  unfold loadFlags entriesAt Flags.load
  cases document? files path with
  | error fault => rfl
  | ok document =>
    cases document with
    | none => rfl
    | some s =>
      show (Document.read s >>= _) = (Document.read s).map _
      cases Document.read s <;> rfl

/-- **Loading the flags sets each as it is decided** by its variable and its entry,
which are no other flag's. If there are no entries to be had, since the document is
faulty, that is reported whatever the environment is. So two loadings set a flag
alike if its variable is the same in both, and its entry is too or the variable holds
a known word. -/
theorem loadFlags_decided (files : Files) (path : Value) :
    (∀ fault, entriesAt files path = .error fault →
      ∀ env, loadFlags env files path = .error fault)
    ∧ ∀ entries, entriesAt files path = .ok entries → ∀ env,
      ∃ flags, loadFlags env files path = .ok flags ∧ ∀ flag : Flag,
        flag.variableName = "QUICMETRICS_" ++ Text.asciiUpper flag.name
        ∧ (∀ other : Flag, other.variableName = flag.variableName ∨ other.name = flag.name →
          other = flag)
        ∧ (∃ b, flags.get flag = .bool b
          ∧ Flags.Decides (env.lookup flag.variableName) (entries.get? flag.name) b)
        ∧ ∀ {env' files' path' entries' flags'}, entriesAt files' path' = .ok entries' →
          loadFlags env' files' path' = .ok flags' →
          env'.lookup flag.variableName = env.lookup flag.variableName →
          Flags.IsTold (env.lookup flag.variableName)
            ∨ entries'.get? flag.name = entries.get? flag.name →
          flags'.get flag = flags.get flag := by
  have hget (env : Environment) (entries : Table String Document.Datum) (flag : Flag) :
      (Flags.ofBools (Flags.resolve env entries)).get flag
        = .bool (Flags.said (env.lookup flag.variableName) (entries.get? flag.name)) := by
    cases flag <;> rfl
  have hload {env files path entries} (hentries : entriesAt files path = .ok entries) :
      loadFlags env files path = .ok (Flags.ofBools (Flags.resolve env entries)) := by
    rw [loadFlags_eq, hentries]
    rfl
  refine ⟨fun fault hfault env => ?_, fun entries hentries env => ⟨_, hload hentries, fun flag =>
    ⟨flag.variableName_eq, fun _ => Flag.eq_of_name_eq,
      ⟨_, hget env entries flag, Flags.decides_said _ _⟩, ?_⟩⟩⟩
  · rw [loadFlags_eq, hfault]
    rfl
  · intro env' files' path' entries' flags' hentries' hflags' hvariable hentry
    rw [hload hentries'] at hflags'
    rw [← Except.ok.inj hflags', hget, hget, hvariable]
    refine congrArg Value.bool (hentry.elim (fun htold => ?_) fun hsame => by rw [hsame])
    exact Flags.said_of_isTold htold _ _

/-- One flag is switched on by its variable, whatever the variable of the other one
is, and a document with a character that none may have is reported. -/
theorem loadFlags_decided_on :
    let env : Environment := [("QUICMETRICS_EXPENSIVE_INITIAL_PACKETS", "On")]
    let others : Environment := ("QUICMETRICS_MAXIMUM_WRITABLE_STREAMS", "1") :: env
    (∃ flags, loadFlags env [] (.text "flags.yaml") = .ok flags
      ∧ flags.get .expensiveInitialPackets = .bool true
      ∧ flags.get .maximumWritableStreams = .bool false
      ∧ ∀ flags', loadFlags others [] .null = .ok flags' →
        flags'.get .expensiveInitialPackets = flags.get .expensiveInitialPackets)
    ∧ loadFlags env [("flags.yaml", "\x07")] (.text "flags.yaml") = .error .unreadable := by
  intro env others
  have hmissing : entriesAt [] (.text "flags.yaml") = .ok .empty := rfl
  have hfaulty : entriesAt [("flags.yaml", "\x07")] (.text "flags.yaml") = .error .unreadable := rfl
  refine ⟨?_, (loadFlags_decided _ _).1 _ hfaulty env⟩
  obtain ⟨flags, hflags, hall⟩ := (loadFlags_decided _ _).2 _ hmissing env
  obtain ⟨-, -, ⟨on, hon, hdecides⟩, halike⟩ := hall .expensiveInitialPackets
  obtain ⟨-, -, ⟨off, hoff, hnothing⟩, -⟩ := hall .maximumWritableStreams
  have htrue : on = true := hdecides.said_eq.symm.trans (by decide)
  have hfalse : off = false := hnothing.said_eq.symm.trans (by decide)
  refine ⟨flags, hflags, htrue ▸ hon, hfalse ▸ hoff, fun flags' hflags' => ?_⟩
  have hnone : entriesAt [] .null = .ok .empty := rfl
  exact halike hnone hflags' rfl (.inr rfl)

end Assembly

end QuicTelemetry
