/-!
# Attempts

Every operation of this library may be refused halfway: after it has written a log entry, after
it has changed its state, after both. An `Attempt` is such an operation. It starts from a state
and leaves an `Outcome`: a result or the reason of the refusal, what was written on the way, and
the state – and **the last two outlive the refusal**, so that "a refused operation leaves the
state as it was" is a property that an operation has or has not, and never one it is given by its
type.
-/

namespace SqlText

@[simp] theorem mapError_ok {ε ε' α : Type} (f : ε → ε') (a : α) :
    (Except.ok a : Except ε α).mapError f = .ok a := rfl

@[simp] theorem mapError_error {ε ε' α : Type} (f : ε → ε') (e : ε) :
    (Except.error e : Except ε α).mapError f = .error (f e) := rfl

/-- What an attempt leaves behind. -/
structure Outcome (ω σ ε α : Type) where
  /-- The result, or why there is none. -/
  result : Except ε α
  /-- What was written, in order. -/
  written : List ω
  /-- The state afterwards. -/
  state : σ

namespace Outcome

variable {ω σ ε α : Type}

/-- The outcome of what came behind something else that was written. -/
def after (w : List ω) (o : Outcome ω σ ε α) : Outcome ω σ ε α :=
  ⟨o.result, w ++ o.written, o.state⟩

/-- The outcome with its refusal said in other terms. -/
def mapRefusal {ε' : Type} (f : ε → ε') (o : Outcome ω σ ε α) : Outcome ω σ ε' α :=
  ⟨o.result.mapError f, o.written, o.state⟩

@[simp] theorem after_nil (o : Outcome ω σ ε α) : o.after [] = o := rfl

@[simp] theorem result_after (w : List ω) (o : Outcome ω σ ε α) :
    (o.after w).result = o.result := rfl

@[simp] theorem written_after (w : List ω) (o : Outcome ω σ ε α) :
    (o.after w).written = w ++ o.written := rfl

@[simp] theorem state_after (w : List ω) (o : Outcome ω σ ε α) :
    (o.after w).state = o.state := rfl

@[simp] theorem result_mapRefusal {ε' : Type} (f : ε → ε') (o : Outcome ω σ ε α) :
    (o.mapRefusal f).result = o.result.mapError f := rfl

@[simp] theorem written_mapRefusal {ε' : Type} (f : ε → ε') (o : Outcome ω σ ε α) :
    (o.mapRefusal f).written = o.written := rfl

@[simp] theorem state_mapRefusal {ε' : Type} (f : ε → ε') (o : Outcome ω σ ε α) :
    (o.mapRefusal f).state = o.state := rfl

end Outcome

/-- An operation on a state `σ` that writes items `ω` and ends with a result `α` or a refusal
`ε`. -/
structure Attempt (ω σ ε α : Type) where
  /-- What the attempt leaves behind, from a state. -/
  run : σ → Outcome ω σ ε α

namespace Attempt

variable {ω σ ε α β : Type}

/-- Ends with a result. -/
def succeed (a : α) : Attempt ω σ ε α := ⟨fun s => ⟨.ok a, [], s⟩⟩

/-- Ends with a refusal. -/
def refuse (e : ε) : Attempt ω σ ε α := ⟨fun s => ⟨.error e, [], s⟩⟩

/-- Writes one item. -/
def write (w : ω) : Attempt ω σ ε Unit := ⟨fun s => ⟨.ok (), [w], s⟩⟩

/-- Reads the state. -/
def state : Attempt ω σ ε σ := ⟨fun s => ⟨.ok s, [], s⟩⟩

/-- Changes the state. -/
def update (f : σ → σ) : Attempt ω σ ε Unit := ⟨fun s => ⟨.ok (), [], f s⟩⟩

/-- Takes over a result that needs no state. -/
def ofExcept (r : Except ε α) : Attempt ω σ ε α := ⟨fun s => ⟨r, [], s⟩⟩

/-- Goes on with the result of an attempt; a refusal ends the whole. -/
def andThen (x : Attempt ω σ ε α) (f : α → Attempt ω σ ε β) : Attempt ω σ ε β :=
  ⟨fun s =>
    match x.run s with
    | ⟨.ok a, w, t⟩ => ((f a).run t).after w
    | ⟨.error e, w, t⟩ => ⟨.error e, w, t⟩⟩

/-- Answers the refusal of an attempt, from the state the refusal left. -/
def orElse (x : Attempt ω σ ε α) (handler : ε → Attempt ω σ ε α) : Attempt ω σ ε α :=
  ⟨fun s =>
    match x.run s with
    | ⟨.ok a, w, t⟩ => ⟨.ok a, w, t⟩
    | ⟨.error e, w, t⟩ => ((handler e).run t).after w⟩

/-- Says the refusals of an attempt in other terms. -/
def mapRefusal {ε' : Type} (f : ε → ε') (x : Attempt ω σ ε α) : Attempt ω σ ε' α :=
  ⟨fun s => (x.run s).mapRefusal f⟩

instance : Monad (Attempt ω σ ε) where
  pure := succeed
  bind := andThen

/-! ## Running the parts -/

@[simp] theorem run_pure (a : α) (s : σ) :
    (pure a : Attempt ω σ ε α).run s = ⟨.ok a, [], s⟩ := rfl

@[simp] theorem run_refuse (e : ε) (s : σ) :
    (refuse e : Attempt ω σ ε α).run s = ⟨.error e, [], s⟩ := rfl

@[simp] theorem run_write (w : ω) (s : σ) :
    (write w : Attempt ω σ ε Unit).run s = ⟨.ok (), [w], s⟩ := rfl

@[simp] theorem run_state (s : σ) :
    (state : Attempt ω σ ε σ).run s = ⟨.ok s, [], s⟩ := rfl

@[simp] theorem run_update (f : σ → σ) (s : σ) :
    (update f : Attempt ω σ ε Unit).run s = ⟨.ok (), [], f s⟩ := rfl

@[simp] theorem run_ofExcept (r : Except ε α) (s : σ) :
    (ofExcept r : Attempt ω σ ε α).run s = ⟨r, [], s⟩ := rfl

@[simp] theorem run_mapRefusal {ε' : Type} (f : ε → ε') (x : Attempt ω σ ε α) (s : σ) :
    (x.mapRefusal f).run s = (x.run s).mapRefusal f := rfl

theorem run_bind_ok {x : Attempt ω σ ε α} {f : α → Attempt ω σ ε β} {s t : σ} {a : α}
    {w : List ω} (h : x.run s = ⟨.ok a, w, t⟩) :
    (x >>= f).run s = ((f a).run t).after w := by
  show (andThen x f).run s = _
  simp only [andThen, h]

theorem run_bind_error {x : Attempt ω σ ε α} {f : α → Attempt ω σ ε β} {s t : σ} {e : ε}
    {w : List ω} (h : x.run s = ⟨.error e, w, t⟩) :
    (x >>= f).run s = ⟨.error e, w, t⟩ := by
  show (andThen x f).run s = _
  simp only [andThen, h]

theorem run_orElse_ok {x : Attempt ω σ ε α} {handler : ε → Attempt ω σ ε α} {s t : σ} {a : α}
    {w : List ω} (h : x.run s = ⟨.ok a, w, t⟩) :
    (x.orElse handler).run s = ⟨.ok a, w, t⟩ := by
  simp only [orElse, h]

theorem run_orElse_error {x : Attempt ω σ ε α} {handler : ε → Attempt ω σ ε α} {s t : σ} {e : ε}
    {w : List ω} (h : x.run s = ⟨.error e, w, t⟩) :
    (x.orElse handler).run s = ((handler e).run t).after w := by
  simp only [orElse, h]

/-- What is made of the result of an attempt alone changes nothing else. -/
theorem run_bind_pure (x : Attempt ω σ ε α) (g : α → β) (s : σ) :
    (x >>= fun a => pure (g a)).run s
      = ⟨(x.run s).result.map g, (x.run s).written, (x.run s).state⟩ := by
  cases h : x.run s with
  | mk result w t =>
    cases result with
    | ok a => rw [run_bind_ok h]; simp [Outcome.after, Except.map]
    | error e => rw [run_bind_error h]; rfl

end Attempt

end SqlText
