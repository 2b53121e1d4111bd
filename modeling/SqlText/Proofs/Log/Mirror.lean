import Mathlib.Data.List.Basic
import SqlText.Proofs.Composer.Reports
import SqlText.Proofs.Log.Decisions

/-!
# The log mirrors the composer

A composer speaks to the log and never hears from it. So **it answers the same in every state of
logging**, whether what it says is delivered at the end or at once, request by request
(`composeEach_eq`), and delivering that changes nothing of how logging is set up: its channels are
known, no level is set, and what passes afterwards passed before (`deliverAll_echo`).

What is written is a mirror of what was said. Every handler writes the lines of the entries that
the levels admit and that it takes, in the order in which they were said, and **these gates are the
same for all that a composer says itself**: one channel and one level. So a handler writes all of it
or nothing (`compose_mirrors`).
-/

namespace SqlText.Log

open Attempt

variable {s t : State} {e : Spoken} {es : List Spoken} {name : String} {level : Level}

/-! ## Speaking at once -/

/-- Entries delivered in turn are delivered some first and then the others. -/
theorem deliverAll_append (s : State) (es fs : List Spoken) :
    s.deliverAll (es ++ fs)
      = ((s.deliverAll es).1 ++ ((s.deliverAll es).2.deliverAll fs).1,
          ((s.deliverAll es).2.deliverAll fs).2) := by
  induction es generalizing s with
  | nil => rfl
  | cons e rest ih =>
    simp only [List.cons_append, State.deliverAll, ih, List.append_assoc]

/-- Entries spoken in turn are some first, and then the others on the occasions behind theirs. -/
theorem spoken_append (occasions : Nat → Occasion) (es fs : List Entry) :
    spoken occasions (es ++ fs)
      = spoken occasions es ++ spoken (fun i => occasions (i + es.length)) fs :=
  List.mapIdx_append

/-- **An attempt in a state of logging**: what it has to say is delivered. How many occasions have
passed is counted on the way. -/
def delivered {σ ε α : Type} (occasions : Nat → Occasion) (x : Attempt Entry σ ε α) :
    Attempt String (σ × State × Nat) ε α :=
  ⟨fun (c, s, n) =>
    let outcome := x.run c
    let (lines, s') := s.deliverAll (spoken (fun i => occasions (i + n)) outcome.written)
    ⟨outcome.result, lines, (outcome.state, s', n + outcome.written.length)⟩⟩

variable {occasions : Nat → Occasion}

/-- What comes of an attempt comes of it in any state of logging. -/
theorem run_delivered {σ ε α : Type} (x : Attempt Entry σ ε α) (c : σ) (s : State) (n : Nat) :
    (delivered occasions x).run (c, s, n)
      = ⟨(x.run c).result,
          (s.deliverAll (spoken (fun i => occasions (i + n)) (x.run c).written)).1,
          ((x.run c).state,
            (s.deliverAll (spoken (fun i => occasions (i + n)) (x.run c).written)).2,
            n + (x.run c).written.length)⟩ := rfl

/-- **Of one attempt behind another**, each is delivered by itself. -/
theorem delivered_bind {σ ε α β : Type} (x : Attempt Entry σ ε α) (f : α → Attempt Entry σ ε β) :
    delivered occasions (x >>= f)
      = delivered occasions x >>= fun a => delivered occasions (f a) := by
  refine congrArg Attempt.mk (funext fun (c, s, n) => ?_)
  show (delivered occasions (x >>= f)).run (c, s, n)
    = (delivered occasions x >>= fun a => delivered occasions (f a)).run (c, s, n)
  have hx : (delivered occasions x).run (c, s, n) = _ := run_delivered x c s n
  rw [run_delivered]
  cases h : x.run c with
  | mk result w c' =>
    rw [h] at hx
    cases result with
    | ok a =>
      -- the occasions of the second attempt are counted from where the first one left off
      have hbehind : (fun i => occasions (i + w.length + n))
          = fun i => occasions (i + (n + w.length)) :=
        funext fun i => congrArg occasions (by omega)
      rw [run_bind_ok h, run_bind_ok hx, run_delivered]
      simp only [Outcome.after, spoken_append, deliverAll_append, hbehind, List.length_append,
        Nat.add_assoc n]
    | error e => rw [run_bind_error h, run_bind_error hx]

/-- Requests to a composer in a state of logging, and the rendering behind them. Each is answered,
and what is said of it is delivered, before the next. -/
def composeEach (occasions : Nat → Occasion) :
    List Composer.Request → Attempt String (Composer × State × Nat) Composer.Failure String
  | [] => delivered occasions Composer.render
  | r :: rest => do
    let _ ← delivered occasions (Composer.answer r)
    composeEach occasions rest

/-- **It makes no difference** whether what is said is delivered request by request. -/
theorem composeEach_eq (rs : List Composer.Request) :
    composeEach occasions rs = delivered occasions (Composer.answerAll rs) := by
  induction rs with
  | nil => rfl
  | cons r rest ih =>
    rw [composeEach, ih, Composer.answerAll, delivered_bind]

/-! ## What is written of entries on known channels -/

namespace State

/-- **What a state writes of entries at a place**: of each that passes, what its handlers write. -/
def echo (s : State) (place : Option Path) (es : List Spoken) : List String :=
  es.flatMap fun e =>
    if s.lets e.named.channel e.level = true then copies s.handlers place e.named else []

theorem echo_append (s : State) (place : Option Path) (es fs : List Spoken) :
    s.echo place (es ++ fs) = s.echo place es ++ s.echo place fs := List.flatMap_append

/-- **Two states are set up alike**: the same levels, channels and handlers, and the same passes. -/
structure Alike (s t : State) : Prop where
  /-- The level of the root channel. -/
  rootLevel : t.rootLevel = s.rootLevel
  /-- The channels that are known, and the levels they have of their own. -/
  channels : t.channels = s.channels
  /-- The handlers, with their levels. -/
  handlers : t.handlers = s.handlers
  /-- Which entries pass. -/
  lets : ∀ name level, t.lets name level = s.lets name level

theorem Alike.refl (s : State) : s.Alike s := ⟨rfl, rfl, rfl, fun _ _ => rfl⟩

theorem Alike.trans {u : State} (h : s.Alike t) (h' : t.Alike u) : s.Alike u :=
  ⟨h'.rootLevel.trans h.rootLevel, h'.channels.trans h.channels, h'.handlers.trans h.handlers,
    fun name level => (h'.lets name level).trans (h.lets name level)⟩

theorem Alike.knows (h : s.Alike t) (hs : s.Knows name) : t.Knows name := by
  unfold Knows
  rwa [h.channels]

theorem Alike.echo_eq (h : s.Alike t) (place : Option Path) (es : List Spoken) :
    t.echo place es = s.echo place es := by
  simp only [echo, h.lets, h.handlers]

theorem alike_deliver (h : s.Knows e.named.channel) : s.Alike (s.deliver e).2 where
  rootLevel := rootLevel_deliver s e
  channels := by rw [channels_deliver, register_of_knows h]
  handlers := handlers_deliver s e
  lets := lets_deliver h

/-- An entry is written by the handlers that take it, if it passes. -/
theorem deliver_echo (s : State) (e : Spoken) :
    (s.deliver e).1 = s.echo none [e]
      ∧ ∀ q, (s.deliver e).2.files.node? q
          = (s.files.node? q).map (Node.add (String.join (s.echo (some q) [e]))) := by
  have hecho : ∀ place, s.echo place [e]
      = if s.lets e.named.channel e.level = true then copies s.handlers place e.named else [] :=
    fun place => List.flatMap_singleton _ _
  have hhanded : handOut e.level s.files e.named.record s.handlers
      = (copies s.handlers none e.named, s.files.keep e.named s.handlers) :=
    handOut_eq (isOf_record e.named) s.files s.handlers
  rw [deliver_eq, passes_hear, hhanded]
  by_cases hpass : s.lets e.named.channel e.level = true
  · simp only [hecho, if_pos hpass]
    exact ⟨trivial, node?_keep s.files e.named s.handlers⟩
  · simp only [hecho, if_neg hpass]
    exact ⟨trivial, fun q => by simp [Node.add_empty]⟩

/-- **Entries on known channels** change nothing of how logging is set up, and what is written of
them is what is written of each in turn. -/
theorem deliverAll_echo (hes : ∀ e ∈ es, s.Knows e.named.channel) :
    s.Alike (s.deliverAll es).2 ∧ (s.deliverAll es).1 = s.echo none es
      ∧ ∀ q, (s.deliverAll es).2.files.node? q
          = (s.files.node? q).map (Node.add (String.join (s.echo (some q) es))) := by
  induction es generalizing s with
  | nil => exact ⟨.refl s, rfl, fun q => by simp [deliverAll, echo, Node.add_empty]⟩
  | cons e rest ih =>
    have halike := alike_deliver (hes e List.mem_cons_self)
    obtain ⟨hlines, hfiles⟩ := s.deliver_echo e
    obtain ⟨hrest, hmore, hothers⟩ :=
      ih (s := (s.deliver e).2) fun e he => halike.knows (hes e (List.mem_cons_of_mem _ he))
    have hcons : ∀ place, s.echo place (e :: rest)
        = s.echo place [e] ++ (s.deliver e).2.echo place rest := fun place => by
      rw [halike.echo_eq, ← echo_append, List.singleton_append]
    refine ⟨halike.trans hrest, ?_, fun q => ?_⟩
    · rw [hcons, ← hlines, ← hmore]
      rfl
    · show ((s.deliver e).2.deliverAll rest).2.files.node? q = _
      rw [hcons, String.join_append, hothers, hfiles, Option.map_map]
      exact congrArg (Option.map · _) (funext fun n => Node.add_add _ _ n)

end State

/-! ## What is written of what the library says -/

/-- **A state is coherent** where the channels of the library are known, and what was decided for
ordinary names is what the levels say. -/
structure State.Coherent (s : State) : Prop where
  /-- The channels of the library are known. -/
  knows : s.KnowsLibrary
  /-- The decisions are settled. -/
  settled : s.Settled

/-- Every state that requests lead to is coherent. -/
theorem coherent_runAll (w : Surroundings) (rs : List Request) :
    ((State.start w).runAll rs).Coherent where
  knows :=
    runAll_invariant (P := State.KnowsLibrary)
      (fun _ _ _ hmove hs channel hchannel => hmove.knows (hs channel hchannel))
      (knowsLibrary_start w) rs
  settled := settled_runAll (settled_of_nil (by simp [State.start, libraryChannels])) rs

theorem ordinary_of_mem_libraryChannels (h : name ∈ libraryChannels) : Ordinary name := by
  rcases eq_of_mem_libraryChannels h with rfl | rfl <;> exact ⟨by decide +kernel, by decide +kernel⟩

theorem named_of_ofLibrary (h : e.toEntry.OfLibrary) : e.named = e := by
  obtain ⟨channel, hchannel, message, hentry⟩ := h
  have hname : (if isRoot e.channel then rootName else e.channel) = e.channel := by
    rw [hentry]
    rcases eq_of_mem_libraryChannels hchannel with rfl | rfl <;> rfl
  rw [Spoken.named, hname]

/-- **The mirror of entries at a place**: of each that the level of its channel admits, what the
handlers write there. -/
def State.mirror (s : State) (place : Option Path) (es : List Spoken) : List String :=
  es.flatMap fun e =>
    if s.effectiveLevel e.channel ≤ e.level then copies s.handlers place e else []

/-- What passes of what the library says is what the levels admit. -/
theorem State.Settled.lets_of_ofLibrary (hs : s.Settled) (h : e.toEntry.OfLibrary) :
    s.lets e.channel e.level = true ↔ s.effectiveLevel e.channel ≤ e.level := by
  obtain ⟨channel, hchannel, message, hentry⟩ := h
  rw [hentry]
  have hname : Ordinary channel := ordinary_of_mem_libraryChannels hchannel
  have hpositive : (0 : Level) < Level.debug := by decide
  show s.lets channel Level.debug = true ↔ s.effectiveLevel channel ≤ Level.debug
  rw [hname.effectiveLevel_eq]
  exact (hs.lets_iff hname Level.debug).trans (and_iff_right hpositive)

/-- **What is written of what the library says** is its mirror. -/
theorem State.Settled.echo_eq (hs : s.Settled) (hes : ∀ e ∈ es, e.toEntry.OfLibrary)
    (place : Option Path) : s.echo place es = s.mirror place es := by
  refine List.flatMap_congr fun e he => ?_
  rw [named_of_ofLibrary (hes e he)]
  simp only [hs.lets_of_ofLibrary (hes e he)]

/-- **What a composer says itself** is written by the only handler of a place all or not at all. -/
theorem mirror_of_ofComposer {h : Handler} {place : Option Path}
    (hes : ∀ e ∈ es, e.toEntry.OfComposer)
    (hplace : (s.handlers.filter fun h => h.target.file? = place) = [h]) :
    s.mirror place es
      = if s.effectiveLevel Composer.channel ≤ Level.debug ∧ h.level ≤ Level.debug then
          es.map fun e => h.target.line e ++ "\n"
        else [] := by
  have hentry : ∀ e ∈ es,
      (if s.effectiveLevel e.channel ≤ e.level then copies s.handlers place e else [])
        = if s.effectiveLevel Composer.channel ≤ Level.debug ∧ h.level ≤ Level.debug then
            [h.target.line e ++ "\n"]
          else [] := by
    intro e he
    obtain ⟨message, hentry⟩ := hes e he
    have hchannel : e.channel = Composer.channel := by rw [hentry]; rfl
    have hlevel : e.level = Level.debug := by rw [hentry]; rfl
    rw [copies_of_single hplace, hchannel, hlevel, ite_and]
  rw [State.mirror, List.flatMap_congr hentry]
  split
  · rw [List.map_eq_flatMap]
  · exact List.flatMap_eq_nil_iff.2 fun _ _ => rfl

/-- What those who trace the work are told goes to no stream of errors. -/
theorem strays_of_debug (hes : ∀ e ∈ es, e.level = Level.debug) (s : State) : s.strays es = [] := by
  have hnone : s.taken bareLevel es = [] := by
    refine List.filter_eq_nil_iff.2 fun e he => ?_
    obtain ⟨e', he', rfl⟩ := State.mem_passed he
    rw [level_named, hes e' he']
    decide
  rw [State.strays, hnone]
  exact ite_self []

/-- **The log mirrors a composer, and a composer does not hear it.** Every state that requests lead
to is coherent, and in any coherent state, whatever its levels, handlers and files, requests to a
composer and the rendering behind them come to what they come to without a log; delivering what is
said request by request makes no difference, and nothing of how logging is set up is changed. What
is written to the console, and what is added to each file, is the mirror of what was said: of each
entry that the level of its channel admits, the lines of the handlers that take it, each as the
handler's formatter makes it of the entry's record. Nothing goes to the stream of errors. All
entries are for those who trace the work. Unless the composer is handed off, they are on one
channel, and the only handler of a place writes them all or none; and of clause calls they are what
is reported of the first that is refused, or what was rendered. -/
theorem compose_mirrors :
    (∀ w requests, ((State.start w).runAll requests).Coherent)
      ∧ ∀ s : State, s.Coherent → ∀ (rs : List Composer.Request) (occasions : Nat → Occasion),
          let direct := (Composer.answerAll rs).run Composer.fresh
          let there := (compose rs occasions).run s
          let said := spoken occasions direct.written
          there.result = direct.result.mapError .composer
          ∧ (composeEach occasions rs).run (Composer.fresh, s, 0)
            = ⟨direct.result, there.written, (direct.state, there.state, direct.written.length)⟩
          ∧ s.Alike there.state
          ∧ there.written = s.mirror none said
          ∧ (∀ q, there.state.files.node? q = (s.files.node? q).map
              (Node.add (String.join (s.mirror (some q) said))))
          ∧ there.state.unhandled = s.unhandled
          ∧ (∀ h ∈ s.handlers, ∀ e ∈ said,
              (h.target.formatter.format e.record).1 = .ok (h.target.line e))
          ∧ (∀ e ∈ direct.written, e.level = Level.debug)
          ∧ ((∀ r ∈ rs, r ≠ .handOff) → ∀ place h,
              (s.handlers.filter fun h => h.target.file? = place) = [h] →
              s.mirror place said
                = if s.effectiveLevel Composer.channel ≤ Level.debug ∧ h.level ≤ Level.debug then
                    said.map fun e => h.target.line e ++ "\n"
                  else [])
          ∧ ∀ ks : List Composer.Call, rs = ks.map .call →
              direct.written = Composer.fresh.lastWords ks := by
  refine ⟨coherent_runAll, fun s hs rs occasions => ?_⟩
  intro direct there said
  have hlibrary : ∀ e ∈ direct.written, e.OfLibrary := writesOnly_answerAll rs Composer.fresh
  have hsaid : ∀ e ∈ said, e.toEntry.OfLibrary := fun e he =>
    hlibrary _ (toEntry_mem_of_mem_spoken he)
  have hdebug : ∀ e ∈ direct.written, e.level = Level.debug := by
    intro e he
    obtain ⟨channel, -, message, rfl⟩ := hlibrary e he
    rfl
  have hknown : ∀ e ∈ said, s.Knows e.named.channel := by
    intro e he
    obtain ⟨channel, hchannel, message, heq⟩ := hsaid e he
    rw [named_of_ofLibrary (hsaid e he), heq]
    exact hs.knows channel hchannel
  obtain ⟨halike, hlines, hfiles⟩ := State.deliverAll_echo hknown
  have hstrays : s.strays said = [] :=
    strays_of_debug (fun e he => hdebug _ (toEntry_mem_of_mem_spoken he)) s
  refine ⟨rfl, ?_, halike, ?_, fun q => ?_, ?_, fun h _ e _ => ?_, hdebug,
    fun hrs place h hplace => ?_, ?_⟩
  · rw [composeEach_eq, run_delivered, Nat.zero_add]
    rfl
  · rw [← hs.settled.echo_eq hsaid]
    exact hlines
  · rw [← hs.settled.echo_eq hsaid]
    exact hfiles q
  · refine (State.unhandled_deliverAll s said).trans ?_
    rw [hstrays, List.append_nil]
  · obtain ⟨r', hformat, -⟩ := format_target (isOf_record e) h.target
    rw [hformat]
  · exact mirror_of_ofComposer
      (fun e he => writesOnly_answerAll_of_ne hrs Composer.fresh _ (toEntry_mem_of_mem_spoken he))
      hplace
  · rintro ks rfl
    exact Composer.written_answerAll_calls Composer.fresh ks

/-- A console that takes everything, and a call that is refused behind one that goes through. -/
example :
    let s := State.start.runAll [.setUp { level := .text "debug", colors := false }]
    ((compose [.call (.source (.text "t") .null), .call (.groupBy (.text " "))]
        fun _ => { time := 0 }).run s).written
      = ["1970-01-01 00:00:00 - sqlbuilder.builder - DEBUG - Rejected clause argument: "
          ++ "Cannot group by an unnamed column.\n"] := by
  decide +kernel

end SqlText.Log
