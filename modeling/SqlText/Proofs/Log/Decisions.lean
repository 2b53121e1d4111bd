import SqlText.Proofs.Log.Handlers
import SqlText.Proofs.Log.Levels
import SqlText.Proofs.Log.Library

/-!
# Decisions that are kept

Whether entries of a channel and a level pass is decided once and then kept until a level is set
somewhere. The decision goes by the levels as they are when it is made (`exists_stands`), and
channels that become known later may hang between others. **For ordinary names that makes no
difference**: what was decided is what the levels say now (`State.Settled.lets_iff`).
-/

namespace SqlText.Log

variable {s t : State} {r : Request} {e : Spoken} {es : List Spoken} {name : String} {level : Level}
variable {b : Bool}

/-! ## What passes -/

/-- **Whether the entries of a channel and a level pass**, the channel becoming known if it is
not. -/
def State.lets (s : State) (channel : String) (level : Level) : Bool :=
  (s.decided.lookup (channel, level)).getD ((s.register channel).admits channel level)

theorem lets_of_decided (h : s.decided.lookup (name, level) = some b) : s.lets name level = b := by
  rw [State.lets, h]
  rfl

/-- Hearing an entry decides on its like, unless that was decided before. -/
theorem lookup_decided_hear (s : State) (e : Spoken) (name : String) (level : Level) :
    (s.hear e).decided.lookup (name, level)
      = (s.decided.lookup (name, level)).or
          (if (name, level) = (e.named.channel, e.level) then some (s.lets name level)
            else none) := by
  have hpasses : (s.register e.named.channel).passes e.named.toEntry
      = s.lets e.named.channel e.level := by
    rw [State.passes, State.lets, decided_register, level_named]
  unfold State.hear State.settle
  rw [decided_register, level_named]
  by_cases hkey : (name, level) = (e.named.channel, e.level)
  · obtain ⟨rfl, rfl⟩ := Prod.mk.inj hkey
    rw [if_pos rfl]
    cases hdecided : s.decided.lookup (e.named.channel, e.level) with
    | some b => rw [decided_register, hdecided]; rfl
    | none =>
      rw [List.lookup_append, hdecided, hpasses, List.lookup_cons, beq_self_eq_true]
  · rw [if_neg hkey, Option.or_none]
    cases s.decided.lookup (e.named.channel, e.level) with
    | some b => rw [decided_register]
    | none =>
      rw [List.lookup_append, List.lookup_cons, beq_eq_false_iff_ne.2 hkey]
      exact Option.or_none

theorem passes_hear (s : State) (e : Spoken) :
    (s.hear e).passes e.named.toEntry = s.lets e.named.channel e.level := by
  rw [State.passes, level_named, lookup_decided_hear, if_pos rfl, State.lets]
  cases s.decided.lookup (e.named.channel, e.level) <;> rfl

/-- **One entry is written down** by handlers of a level where its like passes and it reaches the
level. -/
theorem taken_entry (s : State) (e : Spoken) (level : Level) :
    s.taken level [e]
      = if s.lets e.named.channel e.level = true ∧ level ≤ e.level then [e.named] else [] := by
  rw [State.taken_singleton, passes_hear]

/-! ## Ordinary names -/

/-- **The decisions of a state are settled** where those on channels of ordinary names are what the
levels say now. -/
def State.Settled (s : State) : Prop :=
  ∀ name level b, Ordinary name → s.decided.lookup (name, level) = some b →
    (b = true ↔ 0 < level ∧ s.nearestLevel name ≤ level)

theorem settled_of_nil (h : s.decided = []) : s.Settled := by
  intro name level b _ hb
  rw [h] at hb
  cases hb

/-- **In a settled state** the entries of a channel of an ordinary name pass where they reach the
level of the channel or of the nearest name above it that has one, or the root's. -/
theorem State.Settled.lets_iff (hs : s.Settled) (h : Ordinary name) (level : Level) :
    s.lets name level = true ↔ 0 < level ∧ s.nearestLevel name ≤ level := by
  cases hdecided : s.decided.lookup (name, level) with
  | some b =>
    rw [lets_of_decided hdecided]
    exact hs name level b h hdecided
  | none =>
    rw [State.lets, hdecided, Option.getD_none, h.admits_iff, nearestLevel_register]

@[simp] theorem nearestLevel_settle (s : State) (e : Entry) (name : String) :
    (s.settle e).nearestLevel name = s.nearestLevel name := by
  unfold State.settle; split <;> rfl

/-- Hearing an entry leaves the decisions settled. -/
theorem State.Settled.hear (hs : s.Settled) (e : Spoken) : (s.hear e).Settled := by
  intro name level b h hb
  rw [State.hear, nearestLevel_settle, nearestLevel_register]
  rw [lookup_decided_hear] at hb
  rcases Option.or_eq_some_iff.1 hb with hb | ⟨-, hb⟩
  · exact hs name level b h hb
  · obtain ⟨-, hb⟩ := Option.ite_none_right_eq_some.1 hb
    rw [← Option.some.inj hb]
    exact hs.lets_iff h level

theorem State.Settled.deliver (hs : s.Settled) (e : Spoken) : (s.deliver e).2.Settled := by
  rw [State.state_deliver]
  exact hs.hear e

theorem decided_setLevel (s : State) (name : String) (level : Level) :
    (s.setLevel name level).decided = [] := by
  unfold State.setLevel
  split <;> rfl

/-- **Every request leaves the decisions settled.** -/
theorem State.Move.settled (h : s.Move r t) (hs : s.Settled) : t.Settled := by
  cases h with
  | fitOut su n hsetup hlevel => exact settled_of_nil rfl
  | deliver hassigns => exact State.deliverAll_invariant (fun _ e hs => hs.deliver e) hs r.entries
  | register name hassigns hentries =>
    intro other level b hother hb
    rw [nearestLevel_register]
    exact hs other level b hother (by rwa [decided_register] at hb)
  | assign name n hassigns hsetup hentries => exact settled_of_nil (decided_setLevel _ name n)

/-- **So the decisions are settled after any run.** -/
theorem settled_runAll (hs : s.Settled) (rs : List Request) : (s.runAll rs).Settled :=
  runAll_invariant (fun _ _ _ hmove hs => hmove.settled hs) hs rs

/-! ## Entries on known channels -/

@[simp] theorem rootLevel_deliver (s : State) (e : Spoken) :
    (s.deliver e).2.rootLevel = s.rootLevel := by
  rw [State.state_deliver]
  show (State.settle _ _).rootLevel = _
  unfold State.settle
  split <;> exact rootLevel_register s _

@[simp] theorem channels_deliver (s : State) (e : Spoken) :
    (s.deliver e).2.channels = (s.register e.named.channel).channels := by
  rw [State.state_deliver]
  show (State.settle _ _).channels = _
  unfold State.settle
  split <;> rfl

/-- An entry delivered decides on its like what passes, and on nothing else. -/
theorem decided_deliver (h : (s.deliver e).2.decided.lookup (name, level) = some b) :
    b = s.lets name level
      ∧ (s.decided.lookup (name, level) = none → e.named.channel = name ∧ e.level = level) := by
  rw [State.state_deliver, lookup_decided_hear] at h
  rcases Option.or_eq_some_iff.1 h with h | ⟨hnone, h⟩
  · exact ⟨(lets_of_decided h).symm, fun hnone => by cases hnone.symm.trans h⟩
  · obtain ⟨hkey, hb⟩ := Option.ite_none_right_eq_some.1 h
    exact ⟨(Option.some.inj hb).symm, fun _ => (Prod.mk.inj hkey).imp Eq.symm Eq.symm⟩

/-- What passes without a decision hangs on the channels and the root's level alone. -/
theorem lets_congr (hs : s.decided.lookup (name, level) = none)
    (ht : t.decided.lookup (name, level) = none) (hchannels : t.channels = s.channels)
    (hroot : t.rootLevel = s.rootLevel) : t.lets name level = s.lets name level := by
  have hregister : (t.register name).channels = (s.register name).channels := by
    unfold State.register
    rw [hchannels]
    split
    · exact hchannels
    · rfl
  rw [State.lets, State.lets, hs, ht, State.admits, State.admits,
    effectiveLevel_congr hregister (by rw [rootLevel_register, rootLevel_register, hroot])]

/-- A channel is known. The root channel always is. -/
def State.Knows (s : State) (name : String) : Prop :=
  isRoot name = true ∨ (s.channels.lookup name).isSome = true

theorem register_of_knows (h : s.Knows name) : s.register name = s := by
  unfold State.register
  rw [if_pos (Bool.or_eq_true_iff.2 h)]

/-- **An entry on a channel that is known** changes nothing of what passes. -/
theorem lets_deliver (h : s.Knows e.named.channel) (name : String) (level : Level) :
    (s.deliver e).2.lets name level = s.lets name level := by
  cases hdecided : (s.deliver e).2.decided.lookup (name, level) with
  | some b => rw [lets_of_decided hdecided, (decided_deliver hdecided).1]
  | none =>
    have hbefore : s.decided.lookup (name, level) = none := by
      rw [State.state_deliver, lookup_decided_hear] at hdecided
      exact (Option.or_eq_none_iff.1 hdecided).1
    exact lets_congr hbefore hdecided (by rw [channels_deliver, register_of_knows h])
      (rootLevel_deliver s e)

/-- Entries on known channels decide on their likes what passes, and on nothing else. -/
theorem decided_deliverAll (hes : ∀ e ∈ es, s.Knows e.named.channel)
    (h : (s.deliverAll es).2.decided.lookup (name, level) = some b) :
    b = s.lets name level
      ∧ (s.decided.lookup (name, level) = none →
          ∃ e ∈ es, e.named.channel = name ∧ e.level = level) := by
  induction es generalizing s with
  | nil => exact ⟨(lets_of_decided h).symm, fun hnone => by cases hnone.symm.trans h⟩
  | cons e rest ih =>
    have hknown := hes e List.mem_cons_self
    have hchannels : (s.deliver e).2.channels = s.channels := by
      rw [channels_deliver, register_of_knows hknown]
    obtain ⟨hb, hasked⟩ := ih (s := (s.deliver e).2)
      (fun e' he' => by
        unfold State.Knows
        rw [hchannels]
        exact hes e' (List.mem_cons_of_mem _ he')) h
    refine ⟨hb.trans (lets_deliver hknown name level), fun hnone => ?_⟩
    cases hdecided : (s.deliver e).2.decided.lookup (name, level) with
    | some b' => exact ⟨e, List.mem_cons_self, (decided_deliver hdecided).2 hnone⟩
    | none =>
      obtain ⟨e', hmem, hkey⟩ := hasked hdecided
      exact ⟨e', List.mem_cons_of_mem _ hmem, hkey⟩

/-! ## Decisions over a run -/

/-- The channels of the library are known. -/
def State.KnowsLibrary (s : State) : Prop := ∀ c ∈ libraryChannels, s.Knows c

theorem eq_of_mem_libraryChannels (h : name ∈ libraryChannels) :
    name = Composer.channel ∨ name = HandOff.channel := by
  simpa [libraryChannels] using h

theorem State.Knows.register (h : s.Knows name) (other : String) :
    (s.register other).Knows name := by
  refine h.imp_right fun h => ?_
  unfold State.register
  split
  · exact h
  · rw [List.lookup_append, Option.isSome_or, h, Bool.true_or]

/-- A channel that became known is known. -/
theorem knows_register (s : State) (name : String) : (s.register name).Knows name := by
  unfold State.register
  split
  · next h => exact Bool.or_eq_true_iff.1 h
  · refine .inr ?_
    rw [List.lookup_append, Option.isSome_or]
    simp

theorem knowsLibrary_start (w : Surroundings) : (State.start w).KnowsLibrary := by
  intro c hc
  rcases eq_of_mem_libraryChannels hc with rfl | rfl
  · exact (knows_register _ _).register _
  · exact knows_register _ _

theorem State.Knows.setLevel (h : s.Knows name) (other : String) (level : Level) :
    (s.setLevel other level).Knows name := by
  refine h.imp_right fun h => ?_
  obtain ⟨c, hc, hname⟩ := List.lookup_isSome_iff.1 h
  unfold State.setLevel
  split
  · exact h
  · refine List.lookup_isSome_iff.2 ⟨_, List.mem_map.2 ⟨c, hc, rfl⟩, ?_⟩
    split
    · next he => exact he ▸ hname
    · exact hname

theorem State.Knows.deliver (h : s.Knows name) (e : Spoken) : (s.deliver e).2.Knows name := by
  unfold State.Knows
  rw [channels_deliver]
  exact h.register e.named.channel

/-- What is known stays known. -/
theorem State.Move.knows (h : s.Move r t) (hs : s.Knows name) : t.Knows name := by
  cases h with
  | fitOut su n hsetup hlevel => exact hs
  | deliver hassigns =>
    exact State.deliverAll_invariant (P := fun t => t.Knows name) (fun _ e hs => hs.deliver e) hs
      r.entries
  | register other hassigns hentries => exact hs.register other
  | assign other n hassigns hsetup hentries => exact (hs.register other).setLevel other n

/-- The channels that a request speaks on are known, or it speaks just once. -/
theorem knows_of_mem_entries (hs : s.KnowsLibrary) (r : Request) :
    (∀ e ∈ r.entries, s.Knows e.named.channel) ∨ ∃ e, r.entries = [e] := by
  cases r with
  | setUp | setUpFrom | setUpOnce | channel => exact .inl (List.forall_mem_nil _)
  | log name level message occasion =>
    simp only [Request.entries]
    split
    · exact .inr ⟨_, rfl⟩
    · exact .inl (List.forall_mem_nil _)
  | compose requests occasions =>
    refine .inl fun e he => ?_
    obtain ⟨c, hc, message, hentry⟩ :=
      writesOnly_answerAll requests Composer.fresh _ (toEntry_mem_of_mem_spoken he)
    have hchannel : e.channel = c := by rw [hentry]; rfl
    have hnamed : e.named.channel = c := by
      show (if isRoot e.channel then rootName else e.channel) = c
      rw [hchannel]
      rcases eq_of_mem_libraryChannels hc with rfl | rfl <;> rfl
    rw [hnamed]
    exact hs c hc

/-- **What stands decided after a request** passed before it; and if nothing was decided before, the
request asked. No level was set then. -/
theorem State.Move.decided (h : s.Move r t) (hs : s.KnowsLibrary)
    (hb : t.decided.lookup (name, level) = some b) :
    r.assigns? s = none ∧ b = s.lets name level
      ∧ (s.decided.lookup (name, level) = none →
          ∃ e ∈ r.entries, e.named.channel = name ∧ e.level = level) := by
  cases h with
  | fitOut su n hsetup hlevel => cases hb
  | deliver hassigns =>
    refine ⟨hassigns, ?_⟩
    rcases knows_of_mem_entries hs r with hknown | ⟨e, he⟩
    · exact decided_deliverAll hknown hb
    · rw [he, deliverAll_singleton] at hb
      rw [he]
      exact (decided_deliver hb).imp_right fun hasked hnone =>
        ⟨e, List.mem_cons_self, hasked hnone⟩
  | register other hassigns hentries =>
    rw [decided_register] at hb
    exact ⟨hassigns, (lets_of_decided hb).symm, fun hnone => by cases hnone.symm.trans hb⟩
  | assign other n hassigns hsetup hentries =>
    rw [decided_setLevel] at hb
    cases hb

/-- **A decision stands** between a first run and a second one that goes on from it: there is none
after the first run, the first request of the second one asks for it, and none of the second run
sets a level. -/
structure State.Stands (s : State) (before after : List Request) (name : String) (level : Level) :
    Prop where
  /-- Nothing is decided after the first run. -/
  undecided : (s.runAll before).decided.lookup (name, level) = none
  /-- The second run begins with an entry of the channel and the level. -/
  asked : ∀ r, after.head? = some r → ∃ e ∈ r.entries, e.named.channel = name ∧ e.level = level
  /-- The second run sets no level. -/
  unset : ∀ done r rest, after = done ++ r :: rest →
    r.assigns? (s.runAll (before ++ done)) = none

/-- What stands decided after a run was decided before it, and no level was set in it, or the
decision was made on the way and stands since. -/
theorem stands_of_decided (hs : s.KnowsLibrary) {rs : List Request}
    (hb : (s.runAll rs).decided.lookup (name, level) = some b) :
    (s.decided.lookup (name, level) = some b
        ∧ ∀ done r rest, rs = done ++ r :: rest → r.assigns? (s.runAll done) = none)
      ∨ ∃ before after, rs = before ++ after ∧ s.Stands before after name level
        ∧ b = (s.runAll before).lets name level := by
  induction rs generalizing s with
  | nil => exact .inl ⟨hb, fun done r rest h => by simp at h⟩
  | cons r rest ih =>
    have hmove := move_after s r
    rcases ih (s := s.after r) (fun c hc => hmove.knows (hs c hc)) hb with
      ⟨hdecided, hunset⟩ | ⟨before, after, hrest, hstands, hlets⟩
    · obtain ⟨hassigns, hlets, hasked⟩ := hmove.decided hs hdecided
      have hunset' : ∀ done r' rest', r :: rest = done ++ r' :: rest' →
          r'.assigns? (s.runAll done) = none := by
        intro done r' rest' heq
        cases done with
        | nil =>
          obtain ⟨rfl, rfl⟩ := List.cons.inj heq
          exact hassigns
        | cons r'' done =>
          obtain ⟨rfl, hrest⟩ := List.cons.inj heq
          exact hunset done r' rest' hrest
      cases hbefore : s.decided.lookup (name, level) with
      | some b' =>
        rw [lets_of_decided hbefore] at hlets
        exact .inl ⟨by rw [hlets], hunset'⟩
      | none =>
        refine .inr ⟨[], r :: rest, rfl, ⟨hbefore, fun r' hr' => ?_, hunset'⟩, hlets⟩
        rw [← Option.some.inj hr']
        exact hasked hbefore
    · exact .inr ⟨r :: before, after, by rw [hrest]; rfl,
        ⟨hstands.undecided, hstands.asked, hstands.unset⟩, hlets⟩

/-- **What passes was decided once**: every run has a part up to which nothing was decided, and a
part from there on that begins with what asked and sets no level. -/
theorem exists_stands (hs : s.KnowsLibrary) (hnone : s.decided = []) (rs : List Request)
    (name : String) (level : Level) :
    ∃ before after, rs = before ++ after ∧ s.Stands before after name level
      ∧ (s.runAll rs).lets name level
          = ((s.runAll before).register name).admits name level := by
  have hlets : ∀ t : State, t.decided.lookup (name, level) = none →
      t.lets name level = (t.register name).admits name level := fun t ht => by
    rw [State.lets, ht, Option.getD_none]
  cases hdecided : (s.runAll rs).decided.lookup (name, level) with
  | none =>
    exact ⟨rs, [], (List.append_nil rs).symm,
      ⟨hdecided, fun _ h => (nomatch h), fun done r rest h => by simp at h⟩, hlets _ hdecided⟩
  | some b =>
    rcases stands_of_decided hs hdecided with ⟨h, -⟩ | ⟨before, after, hrs, hstands, hb⟩
    · rw [hnone] at h
      cases h
    · exact ⟨before, after, hrs, hstands,
        by rw [lets_of_decided hdecided, hb, hlets _ hstands.undecided]⟩

end SqlText.Log
