import QuicTelemetry.Proofs.Task.Setup

/-!
# Plain delegation

What a driver would see without the measuring is *plain delegation*: a
generator whose body passes on whatever it is resumed with, and which, told to
end, closes the process and ends as well, unless the closing fails.
`delegating` is that body, and `Body.request` is what any generator makes of
its body.
-/

namespace QuicTelemetry

/-! ## Generators -/

/-- **The body of a generator**: what it does when it is started, and when it is
resumed at the place where it was suspended. -/
structure Body (S : Type) where
  /-- When it is started. -/
  start : S → Step × S
  /-- When it is resumed. -/
  resume : Resumption → S → Step × S

/-- The exception that tells a generator to end. -/
def exitFault : Fault := .stated "GeneratorExit" []

namespace Body

variable {S : Type}

/-- What a step of the body comes to for the driver. -/
def answer (result : Step × S) : TaskReply × Phase × S :=
  (result.1.reply, result.1.phase, result.2)

/-- **Asks a generator for something.** To close it is to raise the exception
that tells it to end, at the place where it was suspended; it must not hand out
anything then. -/
def request (body : Body S) (form : TaskForm) (r : TaskRequest) (phase : Phase) (x : S) :
    TaskReply × Phase × S :=
  match phase with
  | .unstarted =>
    match r with
    | .send .null => answer (body.start x)
    | .send _ => (.raised .mistyped, .unstarted, x)
    | .throw e => (Task.refuse e, .finished, x)
    | .close => (.closed, .finished, x)
  | .suspended =>
    match r with
    | .send v => answer (body.resume (.send v) x)
    | .throw e => answer (body.resume (.throw e) x)
    | .close =>
      match body.resume (.throw exitFault) x with
      | (.yielded _, x) => (.raised .broken, .suspended, x)
      | (.returned _, x) => (.closed, .finished, x)
      | (.raised e, x) =>
        match e.signal with
        | .failure => (.raised e, .finished, x)
        | _ => (.closed, .finished, x)
  | .finished =>
    match form, r with
    | _, .close => (.closed, .finished, x)
    | .coroutine, _ => (.raised .broken, .finished, x)
    | .generator, .send _ => (.returned .null, .finished, x)
    | .generator, .throw e =>
      match e.signal with
      | .stop v => (.returned v, .finished, x)
      | _ => (.raised e, .finished, x)

end Body

/-! ## Delegating -/

/-- **Plain delegation**: the body that passes everything on to a process. -/
def delegating {P : Type} (p : Process P) : Body P where
  start := p.resume (.send .null)
  resume
    | .send v, x => p.resume (.send v) x
    | .throw e, x =>
      match e.signal with
      | .exit =>
        match p.close x with
        | (.ok (), x) => (.raised e, x)
        | (.error failure, x) => (.raised failure, x)
      | _ => p.resume (.throw e) x

/-- A request that resumes the process is answered as the process answers. -/
theorem request_delegating {P : Type} (p : Process P) (form : TaskForm) {r : TaskRequest}
    {phase : Phase} {x : Resumption} (h : r.resumption? phase = some x) (y : P) :
    (delegating p).request form r phase y = Body.answer (p.resume x y) := by
  rcases TaskRequest.resumption?_cases h with
    ⟨rfl, rfl, rfl⟩ | ⟨rfl, v, rfl, rfl⟩ | ⟨rfl, e, rfl, hsignal, rfl⟩
  · rfl
  · rfl
  · show Body.answer ((delegating p).resume (.throw e) y) = _
    unfold delegating
    dsimp only
    split
    · next hexit => exact absurd hexit hsignal
    · rfl

/-- The exception that tells a process to end closes it, and is answered itself
unless the closing fails. -/
theorem request_delegating_exit {P : Type} (p : Process P) (form : TaskForm) {e : Fault}
    (he : e.signal = .exit) (y : P) :
    (delegating p).request form (.throw e) .suspended y
      = ((TaskReply.raised e).afterClosing (p.close y).1, .finished, (p.close y).2) := by
  show Body.answer ((delegating p).resume (.throw e) y) = _
  simp only [delegating, he]
  split <;> next hclose => rw [hclose]; rfl

/-- To close the delegation is to close the process. -/
theorem request_delegating_close {P : Type} (p : Process P) (form : TaskForm) (y : P) :
    (delegating p).request form .close .suspended y
      = (TaskReply.closed.afterClosing (p.close y).1, .finished, (p.close y).2) := by
  have hexit : exitFault.signal = .exit := rfl
  simp only [Body.request, delegating, hexit]
  cases hclose : p.close y with
  | mk outcome z =>
    cases outcome with
    | ok _ =>
      simp only [hexit]
      rfl
    | error failure =>
      have hfailure := Process.signal_of_close hclose
      simp only [hfailure]
      rfl

end QuicTelemetry
