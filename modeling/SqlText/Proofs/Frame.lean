import SqlText.Attempt

/-!
# What an attempt leaves alone, and what it writes

An attempt **keeps** a part of the state when that part is afterwards what it was before, whether
the attempt succeeds or is refused. The part is given by what reads it. It **writes only** items of
a kind when whatever it writes is of that kind, from whatever state it starts. What is put together
from attempts that keep a part keeps it, and what is put together from attempts that write only
items of a kind writes only such items.
-/

namespace SqlText.Attempt

variable {ω σ ε α β τ : Type} {part : σ → τ}

/-- The attempt leaves a part of the state as it is. -/
def Keeps (part : σ → τ) (x : Attempt ω σ ε α) : Prop := ∀ s, part (x.run s).state = part s

theorem keeps_pure (a : α) : Keeps part (pure a : Attempt ω σ ε α) := fun _ => rfl

theorem keeps_state : Keeps part (state : Attempt ω σ ε σ) := fun _ => rfl

theorem keeps_write (w : ω) : Keeps part (write w : Attempt ω σ ε Unit) := fun _ => rfl

theorem keeps_ofExcept (r : Except ε α) : Keeps part (ofExcept r : Attempt ω σ ε α) := fun _ => rfl

theorem keeps_update {f : σ → σ} (h : ∀ s, part (f s) = part s) :
    Keeps part (update f : Attempt ω σ ε Unit) := h

theorem Keeps.mapRefusal {ε' : Type} {x : Attempt ω σ ε α} (hx : Keeps part x) (f : ε → ε') :
    Keeps part (x.mapRefusal f) := hx

/-- One attempt behind another. -/
theorem Keeps.bind {x : Attempt ω σ ε α} {f : α → Attempt ω σ ε β} (hx : Keeps part x)
    (hf : ∀ a, Keeps part (f a)) : Keeps part (x >>= f) := by
  intro s
  have hs := hx s
  cases h : x.run s with
  | mk result written t =>
    rw [h] at hs
    cases result with
    | ok a => rw [run_bind_ok h, Outcome.state_after, hf a t, hs]
    | error e => rw [run_bind_error h, hs]

/-! ## What is written -/

variable {P : ω → Prop}

/-- The attempt writes only items of a kind. -/
def WritesOnly (P : ω → Prop) (x : Attempt ω σ ε α) : Prop := ∀ s, ∀ w ∈ (x.run s).written, P w

theorem writesOnly_pure (a : α) : WritesOnly P (pure a : Attempt ω σ ε α) :=
  fun _ => List.forall_mem_nil _

theorem writesOnly_state : WritesOnly P (state : Attempt ω σ ε σ) := fun _ => List.forall_mem_nil _

theorem writesOnly_update (f : σ → σ) : WritesOnly P (update f : Attempt ω σ ε Unit) :=
  fun _ => List.forall_mem_nil _

theorem writesOnly_ofExcept (r : Except ε α) : WritesOnly P (ofExcept r : Attempt ω σ ε α) :=
  fun _ => List.forall_mem_nil _

theorem writesOnly_write {w : ω} (h : P w) : WritesOnly P (write w : Attempt ω σ ε Unit) :=
  fun _ => List.forall_mem_singleton.2 h

theorem WritesOnly.mono {Q : ω → Prop} {x : Attempt ω σ ε α} (hx : WritesOnly P x)
    (h : ∀ w, P w → Q w) : WritesOnly Q x := fun s w hw => h w (hx s w hw)

theorem WritesOnly.mapRefusal {ε' : Type} {x : Attempt ω σ ε α} (hx : WritesOnly P x)
    (f : ε → ε') : WritesOnly P (x.mapRefusal f) := hx

/-- The items of one attempt behind those of another. -/
theorem WritesOnly.bind {x : Attempt ω σ ε α} {f : α → Attempt ω σ ε β} (hx : WritesOnly P x)
    (hf : ∀ a, WritesOnly P (f a)) : WritesOnly P (x >>= f) := by
  intro s
  have hs := hx s
  cases h : x.run s with
  | mk result written t =>
    rw [h] at hs
    cases result with
    | ok a =>
      rw [run_bind_ok h, Outcome.written_after]
      exact List.forall_mem_append.2 ⟨hs, hf a t⟩
    | error e => rw [run_bind_error h]; exact hs

end SqlText.Attempt
