import QuicTelemetry.Proofs.Log.Context

/-!
# Setups that are refused

A setup can be refused for its style, and then nothing has changed. It can also be
refused for its level: two words name things that are no level. The level is looked at
last, when the handler has taken the place of the one before, and the active setup is
still the one before, so nobody knows the new handler as the logging's own. No later
setup takes its place, and no shutdown detaches it (`Logging.HandlerAction.stays_runAll`).

A `SetupProcess` is a process that notes which of the attached handlers came by a setup.
**After a setup that succeeds its handler is the only one of these, unless an earlier
setup was refused for its level** (`Logging.SetupProcess.setup_after`). With any level but
the two words a setup of a known style succeeds, and what names no level stands for
that of information.
-/

namespace QuicTelemetry

namespace Logging

/-! ## Words -/

/-- The words for levels, in capitals. -/
def levelWords : List (String × Nat) :=
  [("CRITICAL", 50), ("FATAL", 50), ("ERROR", 40), ("WARNING", 30), ("WARN", 30), ("INFO", 20),
    ("DEBUG", 10), ("NOTSET", 0)]

/-- The words, in capitals, for what is no level but is taken for one. -/
def falseLevels : List String := ["BASIC_FORMAT", "_STYLES"]

theorem levelOfWord_of_mem : ∀ entry ∈ levelWords, levelOfWord entry.1 = .ok entry.2 := by
  simp only [levelWords, List.forall_mem_cons]
  exact ⟨rfl, rfl, rfl, rfl, rfl, rfl, rfl, rfl, nofun⟩

theorem levelOfWord_of_notMem {word : String} (hword : word ∉ levelWords.map Prod.fst)
    (hlevel : word ∉ falseLevels) : levelOfWord word = .ok 20 := by
  unfold levelOfWord
  split
  case h_11 => rfl
  case h_9 | h_10 => exact absurd (by decide) hlevel
  all_goals exact absurd (by decide) hword

/-- **A word stands for its level**, and for that of information if it names
none. -/
theorem levelOf_text {s : String} (h : Text.asciiUpper s ∉ falseLevels) :
    levelOf (.text s) = .ok ((levelWords.lookup (Text.asciiUpper s)).getD 20) := by
  show levelOfWord (Text.asciiUpper s) = _
  cases hlookup : levelWords.lookup (Text.asciiUpper s) with
  | none =>
    refine levelOfWord_of_notMem (fun hmem => ?_) h
    obtain ⟨entry, hentry, hsame⟩ := List.mem_map.mp hmem
    have hother := List.lookup_eq_none_iff.mp hlookup entry hentry
    exact absurd hsame (by simpa using Ne.symm (bne_iff_ne.mp hother))
  | some level =>
    obtain ⟨front, back, hsplit, -⟩ := List.lookup_eq_some_iff.mp hlookup
    exact levelOfWord_of_mem (_, level) (hsplit ▸ List.mem_append_right _ List.mem_cons_self)

/-- What is no level is refused. -/
theorem exists_levelOf_text_error {s : String} (h : Text.asciiUpper s ∈ falseLevels) :
    ∃ fault, levelOf (.text s) = .error fault := by
  show ∃ fault, levelOfWord (Text.asciiUpper s) = _
  simp only [falseLevels, List.mem_cons, List.not_mem_nil, or_false] at h
  rcases h with h | h <;> exact ⟨_, by rw [h]; rfl⟩

theorem exists_styleOf_text {s : String} (h : s ∈ styles.map Prod.fst) :
    ∃ structured, styleOf (.text s) = .ok structured := by
  simp only [styles, List.map_cons, List.map_nil, List.mem_cons, List.not_mem_nil, or_false] at h
  rcases h with rfl | rfl <;> exact ⟨_, rfl⟩

theorem styleOf_text_of_notMem {s : String} (h : s ∉ styles.map Prod.fst) :
    styleOf (.text s) = .error (.unknownFormatter (.text s) (styles.map Prod.fst)) := by
  have hlookup : styles.lookup s = none := by
    rw [List.lookup_eq_none_iff]
    exact fun entry hentry => bne_iff_ne.mpr fun heq =>
      h (heq ▸ List.mem_map_of_mem (f := Prod.fst) hentry)
  simp only [styleOf, hlookup]

/-! ## Refusals -/

/-- **A setup that is refused for its style** changes nothing. -/
theorem setup_of_style_error {settings : Settings} {fault : Fault}
    (hstyle : styleOf settings.logFormatter = .error fault) (state : Logging)
    (handler : Option String) : state.setup settings handler = (.error fault, state) := by
  simp only [setup, hstyle]

/-- **A setup that is refused for its level** leaves the level and the active
setup. -/
theorem setup_of_level_error {state : Logging} {settings : Settings} {structured : Bool}
    {fault : Fault} (hstyle : styleOf settings.logFormatter = .ok structured)
    (hlevel : levelOf settings.logLevel = .error fault) (handler : Option String) :
    (state.setup settings handler).1 = .error fault
      ∧ (state.setup settings handler).2.level = state.level
      ∧ (state.setup settings handler).2.active = state.active := by
  have herror : (state.setup settings handler).1 = .error fault := by
    simp [setup, hstyle, hlevel]
  refine ⟨herror, ?_, active_of_setup_error herror⟩
  cases handler <;> cases hactive : state.active <;>
    simp [setup, hstyle, hlevel, hactive, attachTo, detachFrom]

/-- **A setup that succeeds** sets the level and is the active one. -/
theorem setup_of_level {state : Logging} {settings : Settings} {structured : Bool} {level : Nat}
    (hstyle : styleOf settings.logFormatter = .ok structured)
    (hlevel : levelOf settings.logLevel = .ok level) (handler : Option String) :
    (state.setup settings handler).1 = .ok ()
      ∧ (state.setup settings handler).2.level = level
      ∧ (state.setup settings handler).2.active
        = some ⟨structured, setupContext settings, state.handlerFor handler⟩ := by
  have hok : (state.setup settings handler).1 = .ok () := by simp [setup, hstyle, hlevel]
  obtain ⟨⟨other, hset⟩, -⟩ := setUp_setup hok
  have hsame : other = structured := Except.ok.inj (hset.style.symm.trans hstyle)
  refine ⟨hok, by simp [setup, hstyle, hlevel], ?_⟩
  rw [hset.active, hsame]

/-! ## What stays -/

namespace HandlerAction

/-- The handler that an action attaches for the logging, if it comes that far. -/
def given? (state : Logging) : HandlerAction → Option HandlerId
  | .setup settings handler =>
    match styleOf settings.logFormatter with
    | .ok _ => some (state.handlerFor handler)
    | .error _ => none
  | _ => none

/-- Whether an action is a setup that is refused for its level, so that its handler
is attached and not known to be the logging's own. -/
def Strands : HandlerAction → Prop
  | .setup settings _ => (∃ structured, styleOf settings.logFormatter = .ok structured)
    ∧ ∃ fault, levelOf settings.logLevel = .error fault
  | _ => False

theorem given?_setup {state : Logging} {settings : Settings} {structured : Bool}
    (hstyle : styleOf settings.logFormatter = .ok structured) (handler : Option String) :
    given? state (.setup settings handler) = some (state.handlerFor handler) := by
  simp only [given?, hstyle]

theorem given?_of_style_error {state : Logging} {settings : Settings} {fault : Fault}
    (hstyle : styleOf settings.logFormatter = .error fault) (handler : Option String) :
    given? state (.setup settings handler) = none := by
  simp only [given?, hstyle]

theorem attached_attach (state : Logging) (handler : HandlerId) :
    (run state (.attach handler)).attached = Logging.attach state.attached handler :=
  (handlersOf_attachTo state metricsLogger metricsLogger handler).trans (if_pos rfl)

theorem attached_detach (state : Logging) (handler : HandlerId) :
    (run state (.detach handler)).attached = Logging.detach state.attached handler :=
  (handlersOf_detachFrom state metricsLogger metricsLogger handler).trans (if_pos rfl)

/-- No action attaches a handler twice. -/
theorem nodup_attached_run {state : Logging} (hnodup : state.attached.Nodup)
    (action : HandlerAction) :
    (action.run state).attached.Nodup := by
  cases action with
  | setup settings handler =>
    cases hstyle : styleOf settings.logFormatter with
    | error fault =>
      rw [run, setup_of_style_error hstyle]
      exact hnodup
    | ok structured =>
      rw [run, attached_setup hstyle]
      exact nodup_attach (nodup_others hnodup) _
  | shutdown =>
    rw [run, attached_shutdown]
    exact nodup_others hnodup
  | attach handler =>
    rw [attached_attach]
    exact nodup_attach hnodup handler
  | detach handler =>
    rw [attached_detach]
    exact nodup_detach hnodup handler

/-- **A handler that the active setup does not know stays attached**, unless the
application detaches it or gives it to a setup. -/
theorem stays_run {state : Logging} {h : HandlerId} (hmem : h ∈ state.attached)
    (hours : state.ours ≠ some h) {action : HandlerAction} (hgiven : action.given? state ≠ some h)
    (hdetach : action ≠ .detach h) :
    h ∈ (action.run state).attached ∧ (action.run state).ours ≠ some h := by
  have hothers : h ∈ state.others := mem_others.mpr ⟨hmem, hours⟩
  cases action with
  | setup settings handler =>
    cases hstyle : styleOf settings.logFormatter with
    | error fault =>
      rw [run, setup_of_style_error hstyle]
      exact ⟨hmem, hours⟩
    | ok structured =>
      rw [given?_setup hstyle] at hgiven
      refine ⟨?_, ?_⟩
      · rw [run, attached_setup hstyle]
        exact mem_attach.mpr (.inl hothers)
      · cases hlevel : levelOf settings.logLevel with
        | ok level =>
          rw [ours, run, (setup_of_level hstyle hlevel handler).2.2]
          exact hgiven
        | error fault =>
          rw [ours, run, (setup_of_level_error hstyle hlevel handler).2.2]
          exact hours
  | shutdown =>
    rw [ours, run, attached_shutdown, active_shutdown]
    exact ⟨hothers, (Option.some_ne_none h).symm⟩
  | attach handler =>
    rw [attached_attach]
    exact ⟨mem_attach.mpr (.inl hmem), hours⟩
  | detach handler =>
    rw [attached_detach]
    exact ⟨mem_detach.mpr ⟨hmem, fun heq => hdetach (heq ▸ rfl)⟩, hours⟩

/-- A handler that is set apart is given to no setup. -/
theorem SetsApart.given?_ne {actions : List HandlerAction} {h : HandlerId}
    (hapart : SetsApart actions h)
    {action : HandlerAction} (haction : action ∈ actions)
    (state : Logging) : action.given? state ≠ some h := by
  intro hgiven
  cases action with
  | setup settings handler =>
    cases hstyle : styleOf settings.logFormatter with
    | error fault => simp [given?_of_style_error hstyle] at hgiven
    | ok structured =>
      rw [given?_setup hstyle, Option.some_inj] at hgiven
      cases handler with
      | some name => exact hapart.2 settings (hgiven ▸ haction)
      | none =>
        rw [← hgiven] at hapart
        exact Nat.succ_ne_zero _ hapart.1
  | shutdown | attach | detach => cases hgiven

/-- **No later setup and no shutdown takes such a handler away.** -/
theorem stays_runAll {actions played : List HandlerAction} {h : HandlerId}
    (hapart : SetsApart actions h)
    (hdetach : .detach h ∉ actions) (hplayed : ∀ action ∈ played, action ∈ actions)
    {state : Logging}
    (hmem : h ∈ state.attached) (hours : state.ours ≠ some h) :
    h ∈ (runAll state played).attached := by
  induction played generalizing state with
  | nil => exact hmem
  | cons action played ih =>
    rw [List.forall_mem_cons] at hplayed
    have hother : action ≠ .detach h := fun heq => hdetach (heq ▸ hplayed.1)
    obtain ⟨hstill, hnever⟩ := stays_run hmem hours (hapart.given?_ne hplayed.1 state) hother
    exact ih hplayed.2 hstill hnever

end HandlerAction

/-! ## Handlers that came by a setup -/

/-- **A process that sets its logging up**: it notes which of the handlers attached
to `quicmetrics` came by a setup. -/
structure SetupProcess where
  /-- The logging state. -/
  logging : Logging
  /-- The handlers that a setup attached, and that are attached still. -/
  ours : List HandlerId := []

namespace SetupProcess

/-- The process after an action: the handler of a setup is the logging's own from now
on, and no handler is that is detached. -/
def after (process : SetupProcess) (action : HandlerAction) : SetupProcess :=
  let logging := action.run process.logging
  ⟨logging, logging.attached.filter fun h =>
    decide (h ∈ process.ours ∨ action.given? process.logging = some h)⟩

/-- The process after some actions. -/
def run (process : SetupProcess) (actions : List HandlerAction) : SetupProcess :=
  actions.foldl after process

variable {process : SetupProcess} {action : HandlerAction}

theorem mem_ours_after {h : HandlerId} :
    h ∈ (process.after action).ours
      ↔ h ∈ (action.run process.logging).attached
        ∧ (h ∈ process.ours ∨ action.given? process.logging = some h) := by
  simp [after]

/-- **What holds in every process**: no handler is attached twice, and those that
came by a setup are attached. -/
structure Sound (process : SetupProcess) : Prop where
  /-- No handler is attached twice. -/
  nodup : process.logging.attached.Nodup
  /-- Those that came by a setup are attached. -/
  attached : ∀ h ∈ process.ours, h ∈ process.logging.attached

theorem Sound.after (hsound : process.Sound) : (process.after action).Sound :=
  ⟨HandlerAction.nodup_attached_run hsound.nodup action, fun _ hmem => (mem_ours_after.mp hmem).1⟩

theorem Sound.run (hsound : process.Sound) (actions : List HandlerAction) :
    (process.run actions).Sound := by
  induction actions generalizing process with
  | nil => exact hsound
  | cons action actions ih => exact ih hsound.after

/-- **No handler came by a setup but that of the active one.** -/
def IsSole (process : SetupProcess) : Prop := ∀ h ∈ process.ours, process.logging.ours = some h

/-- Of handlers that came by a setup only that of the active one is taken away, so
there is no other as long as each is made known. -/
theorem IsSole.after (hsole : process.IsSole) (hknown : ¬ action.Strands) :
    (process.after action).IsSole := by
  intro h hmem
  obtain ⟨hattached, hwhose⟩ := mem_ours_after.mp hmem
  cases action with
  | setup settings handler =>
    cases hstyle : styleOf settings.logFormatter with
    | error fault =>
      rw [HandlerAction.given?_of_style_error hstyle] at hwhose
      show (process.logging.setup settings handler).2.ours = _
      rw [setup_of_style_error hstyle]
      exact hsole h (hwhose.resolve_right (Option.some_ne_none h).symm)
    | ok structured =>
      cases hlevel : levelOf settings.logLevel with
      | error fault => exact absurd ⟨⟨structured, hstyle⟩, fault, hlevel⟩ hknown
      | ok level =>
        rw [HandlerAction.run, attached_setup hstyle, mem_attach] at hattached
        rw [HandlerAction.given?_setup hstyle] at hwhose
        show (process.logging.setup settings handler).2.ours = _
        rw [Logging.ours, (setup_of_level hstyle hlevel handler).2.2]
        -- only the handler of the active setup came by one, and that is detached
        rcases hattached with hothers | rfl
        · have hother := (mem_others.mp hothers).2
          exact hwhose.resolve_left fun hours => hother (hsole h hours)
        · rfl
  | shutdown =>
    rw [HandlerAction.run, attached_shutdown, mem_others] at hattached
    exact absurd (hsole h (hwhose.resolve_right (Option.some_ne_none h).symm)) hattached.2
  | attach handler | detach handler => exact hsole h (hwhose.resolve_right (Option.some_ne_none h).symm)

theorem IsSole.run (hsole : process.IsSole) {actions : List HandlerAction}
    (hknown : ∀ action ∈ actions, ¬ action.Strands) : (process.run actions).IsSole := by
  induction actions generalizing process with
  | nil => exact hsole
  | cons action actions ih =>
    rw [List.forall_mem_cons] at hknown
    exact ih (hsole.after hknown.1) hknown.2

/-- **The handler of a setup is the only one that came by a setup** exactly if that
of the active setup was the only other one. -/
theorem Sound.ours_setup_iff (hsound : process.Sound) {settings : Settings} {structured : Bool}
    (hstyle : styleOf settings.logFormatter = .ok structured) (handler : Option String) :
    (process.after (.setup settings handler)).ours = [process.logging.handlerFor handler]
      ↔ ∀ h ∈ process.ours,
        process.logging.ours = some h ∨ h = process.logging.handlerFor handler := by
  have hmem (h : HandlerId) : h ∈ (process.after (.setup settings handler)).ours
      ↔ (h ∈ process.logging.others ∨ h = process.logging.handlerFor handler)
        ∧ (h ∈ process.ours ∨ process.logging.handlerFor handler = h) := by
    rw [mem_ours_after, HandlerAction.given?_setup hstyle, Option.some_inj, HandlerAction.run,
      attached_setup hstyle, mem_attach]
  have hnodup : (process.after (.setup settings handler)).ours.Nodup :=
    (HandlerAction.nodup_attached_run hsound.nodup _).filter _
  constructor
  · intro hours h hbefore
    by_cases hactive : process.logging.ours = some h
    · exact .inl hactive
    · have hothers := mem_others.mpr ⟨hsound.attached h hbefore, hactive⟩
      have hstill := (hmem h).mpr ⟨.inl hothers, .inl hbefore⟩
      rw [hours] at hstill
      exact .inr (List.mem_singleton.mp hstill)
  · intro hsole
    rw [← List.perm_singleton, List.perm_ext_iff_of_nodup hnodup (List.nodup_singleton _)]
    intro h
    rw [hmem, List.mem_singleton]
    constructor
    · rintro ⟨hothers | rfl, hbefore | hgiven⟩
      · exact (hsole h hbefore).resolve_left (mem_others.mp hothers).2
      · exact hgiven.symm
      · rfl
      · rfl
    · rintro rfl
      exact ⟨.inr rfl, .inr rfl⟩

/-- **What a setup does, whatever came before it**, setups that were refused
included. If its style is unknown it changes nothing. If its level is one of two
words it leaves the level and the active setup, and its handler takes the place of
the active one's for good. With any other level it succeeds: the level is set, it is
the active setup, and its handler is the only one that came by a setup, unless an
earlier setup was refused for its level. -/
theorem setup_after {start : Logging} (hnodup : start.attached.Nodup)
    (actions : List HandlerAction) {settings : Settings} {formatter level : String}
    (hformatter : settings.logFormatter = .text formatter)
    (hlevel : settings.logLevel = .text level) (handler : Option String) :
    let before := run ⟨start, []⟩ actions
    let attempt := before.logging.setup settings handler
    let after := before.after (.setup settings handler)
    let given := before.logging.handlerFor handler
    (formatter ∉ styles.map Prod.fst → attempt
        = (.error (.unknownFormatter (.text formatter) (styles.map Prod.fst)), before.logging))
      ∧ (formatter ∈ styles.map Prod.fst →
        attempt.2.attached = attach before.logging.others given
        ∧ (Text.asciiUpper level ∉ falseLevels →
          attempt.1 = .ok ()
          ∧ attempt.2.level = (levelWords.lookup (Text.asciiUpper level)).getD 20
          ∧ attempt.2.ours = some given
          ∧ (after.ours = [given]
            ↔ ∀ h ∈ before.ours, before.logging.ours = some h ∨ h = given)
          ∧ ((∀ action ∈ actions, ¬ action.Strands) → after.ours = [given]))
        ∧ (Text.asciiUpper level ∈ falseLevels →
          (∃ fault, attempt.1 = .error fault)
          ∧ attempt.2.level = before.logging.level
          ∧ attempt.2.active = before.logging.active
          ∧ (before.logging.ours ≠ some given → ∀ later : List HandlerAction,
            HandlerAction.SetsApart later given → .detach given ∉ later →
              given ∈ (HandlerAction.runAll attempt.2 later).attached))) := by
  intro before attempt after given
  have hsound : before.Sound :=
    Sound.run ⟨hnodup, fun _ hmem => absurd hmem List.not_mem_nil⟩ actions
  refine ⟨fun hunknown => ?_, fun hknown => ?_⟩
  · have hstyle := (congrArg styleOf hformatter).trans (styleOf_text_of_notMem hunknown)
    exact setup_of_style_error hstyle _ handler
  obtain ⟨structured, hstyle⟩ := exists_styleOf_text hknown
  rw [← hformatter] at hstyle
  refine ⟨attached_setup hstyle handler, fun hword => ?_, fun hword => ?_⟩
  · have hlevelOf := (congrArg levelOf hlevel).trans (levelOf_text hword)
    obtain ⟨hok, hset, hactive⟩ := setup_of_level hstyle hlevelOf handler
    have honly := hsound.ours_setup_iff hstyle handler
    refine ⟨hok, hset, congrArg (Option.map LogSetup.handler) hactive, honly, fun hactions => ?_⟩
    have hsole : before.IsSole :=
      IsSole.run (fun _ hmem => absurd hmem List.not_mem_nil) hactions
    exact honly.mpr fun h hmem => .inl (hsole h hmem)
  · obtain ⟨fault, hfault⟩ := exists_levelOf_text_error hword
    obtain ⟨herror, hsame, hactive⟩ :=
      setup_of_level_error hstyle ((congrArg levelOf hlevel).trans hfault) handler
    refine ⟨⟨fault, herror⟩, hsame, hactive, fun hours later hapart hdetach => ?_⟩
    refine HandlerAction.stays_runAll hapart hdetach (fun _ hmem => hmem) ?_ ?_
    · rw [attached_setup hstyle]
      exact mem_attach.mpr (.inr rfl)
    · exact fun heq => hours ((congrArg (Option.map LogSetup.handler) hactive).symm.trans heq)

/-- A second setup at another level takes the place of the first, and the handler of
the application stays. -/
theorem setup_after_first :
    let settings (level : String) : Settings := ⟨.text "memory", .text "edge", .null,
      .text "quicmetrics", .text "stdlib", .text "json", .text level⟩
    let before := run ⟨{}, []⟩ [.setup (settings "info") (some "first"), .attach ⟨"mine", 0⟩]
    let attempt := before.logging.setup (settings "Warn") (some "second")
    attempt.1 = .ok () ∧ attempt.2.level = 30
      ∧ attempt.2.attached = [⟨"mine", 0⟩, ⟨"second", 0⟩]
      ∧ (before.after (.setup (settings "Warn") (some "second"))).ours = [⟨"second", 0⟩] := by
  intro settings before attempt
  have hnodup : ({} : Logging).attached.Nodup := List.nodup_nil
  have hformatter : (settings "Warn").logFormatter = .text "stdlib" := rfl
  have hknown : ∀ action ∈
      [HandlerAction.setup (settings "info") (some "first"), .attach ⟨"mine", 0⟩],
      ¬ action.Strands := by
    have hinfo : levelOf (settings "info").logLevel = .ok 20 := rfl
    simp only [List.forall_mem_cons]
    refine ⟨fun ⟨_, fault, hfault⟩ => ?_, id, nofun⟩
    rw [hinfo] at hfault
    cases hfault
  obtain ⟨-, hsetup⟩ := setup_after hnodup [.setup (settings "info") (some "first"),
    .attach ⟨"mine", 0⟩] hformatter rfl (some "second")
  obtain ⟨hattached, hlevel, -⟩ := hsetup (by decide)
  obtain ⟨hok, hset, -, -, honly⟩ := hlevel (by decide)
  exact ⟨hok, hset, hattached, honly hknown⟩

/-- **A setup that fails changes which handlers are attached**: with a level that
names no standard one it is refused, the handler of the setup before is gone, and
the new one is left behind by a shutdown. -/
theorem setup_strands_handler :
    let settings (level : String) : Settings := ⟨.text "memory", .text "edge", .null,
      .text "quicmetrics", .text "stdlib", .text "json", .text level⟩
    let first := (({} : Logging).setup (settings "info") (some "first")).2
    let attempt := first.setup (settings "basic_format") (some "second")
    levelWords.lookup (Text.asciiUpper "basic_format") = none
      ∧ attempt.1 = .error .malformed
      ∧ first.attached = [⟨"first", 0⟩] ∧ first.ours = some ⟨"first", 0⟩
      ∧ attempt.2.attached = [⟨"second", 0⟩] ∧ attempt.2.ours = some ⟨"first", 0⟩
      ∧ attempt.2.shutdown.attached = [⟨"second", 0⟩] :=
  ⟨by decide, rfl, rfl, rfl, rfl, rfl, rfl⟩

end SetupProcess

end Logging

end QuicTelemetry
