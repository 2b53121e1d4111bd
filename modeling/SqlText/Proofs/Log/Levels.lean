import SqlText.Log.State

/-!
# The level that holds for a channel

A channel takes over the level of the channel it hangs on until one with a level of its own is found
(`effectiveLevel_eq`). The names of channels are dotted, and one expects a channel to hang on the
nearest name above it. So it does, as far as levels go, where the name is **ordinary**: without two
points side by side, and with no name above it that begins the name of the root channel. Then the
level that holds is its own or that of the nearest name above it that has one, and else the root's
(`Ordinary.effectiveLevel_eq`), and making further channels known changes nothing of that.
-/

namespace SqlText.Log

variable {s : State} {name : String}

/-! ## Names above a name -/

/-- What stands before each point, the longest first, from characters in reverse. -/
def beforePoints : List Char → List (List Char)
  | [] => []
  | c :: rest => if c = '.' then rest.reverse :: beforePoints rest else beforePoints rest

/-- **The names above a name**, the longest first: what stands before each of its points. -/
def ancestors (name : String) : List String :=
  (beforePoints name.toList.reverse).map String.ofList

/-- The level of a name or of the nearest name above it that has one, and else the root's. -/
def State.nearestLevel (s : State) (name : String) : Level :=
  (((name :: ancestors name).map s.ownLevel).find? fun level => decide (level ≠ 0)).getD s.rootLevel

/-- **A name is ordinary**: no two points stand side by side in it, and no name above it begins the
name of the root channel. -/
structure Ordinary (name : String) : Prop where
  /-- No two points side by side. -/
  points : ¬ ['.', '.'] <:+: name.toList
  /-- No beginning of the root's name above it. -/
  above : ∀ a ∈ ancestors name, a ∉ ["r", "ro", "roo"]

/-- A name has none above it, or a nearest one and those above that. -/
theorem beforePoints_cases (cs : List Char) :
    beforePoints cs = [] ∨ ∃ rest, rest <:+ cs ∧ rest.length < cs.length
      ∧ beforePoints cs = rest.reverse :: beforePoints rest := by
  induction cs with
  | nil => exact .inl rfl
  | cons c cs ih =>
    by_cases hc : c = '.'
    · exact .inr ⟨cs, List.suffix_cons c cs, Nat.lt_succ_self _, if_pos hc⟩
    · rcases ih with hnil | ⟨rest, hsuffix, hlength, hcons⟩
      · exact .inl (by rw [beforePoints, if_neg hc, hnil])
      · exact .inr ⟨rest, hsuffix.trans (List.suffix_cons c cs), Nat.lt_succ_of_lt hlength,
          by rw [beforePoints, if_neg hc, hcons]⟩

/-- **An ordinary name** has none above it, or a nearest one, which is ordinary and shorter, and
those above that. -/
theorem Ordinary.cases (h : Ordinary name) :
    ancestors name = [] ∨ ∃ a, Ordinary a ∧ a.toList.length < name.toList.length
      ∧ ancestors name = a :: ancestors a := by
  rcases beforePoints_cases name.toList.reverse with hnil | ⟨rest, hsuffix, hlength, hcons⟩
  · exact .inl (by rw [ancestors, hnil]; rfl)
  · have hancestors : ancestors name
        = String.ofList rest.reverse :: ancestors (String.ofList rest.reverse) := by
      simp only [ancestors, hcons, String.toList_ofList, List.reverse_reverse, List.map_cons]
    refine .inr ⟨String.ofList rest.reverse,
      ⟨fun hpair => h.points ?_, fun a ha => h.above a ?_⟩, ?_, hancestors⟩
    · rw [String.toList_ofList] at hpair
      have hprefix : rest.reverse <+: name.toList := by
        rw [← List.reverse_reverse name.toList]
        exact List.reverse_prefix.2 hsuffix
      exact hpair.trans hprefix.isInfix
    · rw [hancestors]
      exact List.mem_cons_of_mem _ ha
    · simpa using hlength

/-- Without two points side by side, the names that a channel may hang on are those above it. -/
theorem namesAbove_eq {cs : List Char} (h : ¬ ['.', '.'] <:+: cs) :
    namesAbove cs = (beforePoints cs).filter fun n => decide (n ≠ []) := by
  fun_induction namesAbove cs with
  | case1 => rfl
  | case2 c => by_cases hc : c = '.' <;> simp [beforePoints, hc]
  | case3 d rest ih =>
    have hd : d ≠ '.' := fun hd => h ⟨[], rest, by rw [hd]; rfl⟩
    have hrest : ¬ ['.', '.'] <:+: rest := fun hpair =>
      h (hpair.trans ((List.suffix_cons d rest).trans (List.suffix_cons '.' _)).isInfix)
    rw [beforePoints, if_pos rfl, beforePoints, if_neg hd, List.filter_cons_of_pos (by simp),
      ih hrest]
  | case4 c d rest hc ih =>
    have hrest : ¬ ['.', '.'] <:+: d :: rest := fun hpair =>
      h (hpair.trans (List.suffix_cons c _).isInfix)
    rw [beforePoints, if_neg hc, ih hrest]

/-- What a channel may hang on has a shorter name. -/
theorem length_lt_of_mem_namesAbove {cs n : List Char} (h : n ∈ namesAbove cs) :
    n.length < cs.length := by
  fun_induction namesAbove cs with
  | case1 => cases h
  | case2 c => cases h
  | case3 d rest ih =>
    rcases List.mem_cons.1 h with rfl | h
    · simp
    · exact Nat.lt_succ_of_lt (Nat.lt_succ_of_lt (ih h))
  | case4 c d rest hc ih => exact Nat.lt_succ_of_lt (ih h)

/-! ## The tree of channels -/

theorem length_parent?_lt {above : String} (h : s.parent? name = some above) :
    above.toList.length < name.toList.length := by
  have hnearest : s.nearestAbove? name = some above := (Option.filter_eq_some_iff.1 h).1
  obtain ⟨n, hn, rfl⟩ := List.mem_map.1 (List.mem_of_find?_eq_some hnearest)
  simpa using length_lt_of_mem_namesAbove hn

theorem nearestAbove?_of_isRoot (h : isRoot name = true) (s : State) :
    s.nearestAbove? name = none := by
  have hname : name = "" ∨ name = rootName := by simpa [isRoot] using h
  rcases hname with rfl | rfl <;> rfl

/-- The level of the root channel holds for the root channel. -/
theorem levelFrom_of_isRoot (h : isRoot name = true) (s : State) (fuel : Nat) :
    s.levelFrom fuel name = s.rootLevel := by
  cases fuel with
  | zero => rfl
  | succ fuel =>
    rw [State.levelFrom, State.parent?, nearestAbove?_of_isRoot h, State.ownLevel, if_pos h]
    exact ite_self _

/-- More fuel than the name is long makes no difference. -/
theorem levelFrom_eq_levelFrom {fuel fuel' : Nat} (h : name.toList.length < fuel)
    (h' : name.toList.length < fuel') : s.levelFrom fuel name = s.levelFrom fuel' name := by
  induction fuel generalizing name fuel' with
  | zero => cases h
  | succ fuel ih =>
    obtain ⟨fuel', rfl⟩ := Nat.exists_eq_succ_of_ne_zero (Nat.ne_zero_of_lt h')
    rw [State.levelFrom, State.levelFrom]
    cases hparent : s.parent? name with
    | none => rfl
    | some above =>
      have hlength := length_parent?_lt hparent
      simp only [ih (Nat.lt_of_lt_of_le hlength (Nat.le_of_lt_succ h))
        (Nat.lt_of_lt_of_le hlength (Nat.le_of_lt_succ h'))]

theorem levelFrom_eq {fuel : Nat} (h : name.toList.length < fuel) :
    s.levelFrom fuel name = s.effectiveLevel name := by
  unfold State.effectiveLevel
  split
  · next hroot => exact levelFrom_of_isRoot hroot s fuel
  · exact levelFrom_eq_levelFrom h (Nat.lt_succ_self _)

/-- **The level that holds for a channel** is its own, or that of the channel it hangs on, or the
root's. -/
theorem effectiveLevel_eq (s : State) (name : String) :
    s.effectiveLevel name
      = if s.ownLevel name ≠ 0 then s.ownLevel name
        else match s.parent? name with
          | some above => s.effectiveLevel above
          | none => s.rootLevel := by
  rw [← levelFrom_eq (Nat.lt_succ_self name.toList.length), State.levelFrom]
  cases hparent : s.parent? name with
  | none => rfl
  | some above => simp only [levelFrom_eq (length_parent?_lt hparent)]

/-! ## Ordinary names -/

theorem effectiveLevel_of_isRoot (h : isRoot name = true) (s : State) :
    s.effectiveLevel name = s.rootLevel := if_pos h

/-- A name that begins the root's is the root's, or one of three. -/
theorem isRoot_of_beginsRootName {a : String} (h : beginsRootName a = true)
    (ha : a ∉ ["r", "ro", "roo"]) : isRoot a = true := by
  have hprefix : a.toList <+: ['r', 'o', 'o', 't'] := List.isPrefixOf_iff_prefix.1 h
  simp only [List.prefix_cons_iff, List.prefix_nil] at hprefix
  have hname : ∀ cs, a.toList = cs → a = String.ofList cs := fun cs h => by
    rw [← h, String.ofList_toList]
  rcases hprefix with h | ⟨t, h, rfl | ⟨t, rfl, rfl | ⟨t, rfl, rfl | ⟨t, rfl, rfl⟩⟩⟩⟩
  · rw [hname _ h]
    rfl
  · exact absurd (by rw [hname _ h]; decide) ha
  · exact absurd (by rw [hname _ h]; decide) ha
  · exact absurd (by rw [hname _ h]; decide) ha
  · rw [hname _ h]
    rfl

/-- The nearest known channel above one of an ordinary name is above it. -/
theorem Ordinary.nearestAbove?_eq (h : Ordinary name) (s : State) :
    s.nearestAbove? name
      = (ancestors name).find? fun a => decide (a ≠ "") && (s.channels.lookup a).isSome := by
  have hpoints : ¬ ['.', '.'] <:+: name.toList.reverse := by
    rw [show ['.', '.'] = ['.', '.'].reverse from rfl, List.reverse_infix]
    exact h.points
  rw [State.nearestAbove?, namesAbove_eq hpoints, ancestors, List.find?_map, List.find?_map,
    List.find?_filter]
  refine congrArg (Option.map String.ofList) (congrArg (List.find? · _) (funext fun cs => ?_))
  have hempty : String.ofList cs ≠ "" ↔ cs ≠ [] := by
    rw [ne_eq, ← String.toList_inj, String.toList_ofList]
    rfl
  simp only [Function.comp_apply, hempty, decide_eq_true_eq, Bool.decide_and, Bool.decide_eq_true]

/-- **For a channel of an ordinary name** that has no level of its own, the level of the nearest
known channel above it holds, or the root's. -/
theorem Ordinary.effectiveLevel_of_own (h : Ordinary name) (hown : s.ownLevel name = 0) :
    s.effectiveLevel name
      = match s.nearestAbove? name with
        | some above => s.effectiveLevel above
        | none => s.rootLevel := by
  rw [effectiveLevel_eq, if_neg (not_not_intro hown), State.parent?]
  cases hnearest : s.nearestAbove? name with
  | none => rfl
  | some a =>
    rw [Option.filter_some]
    cases hbegins : beginsRootName a with
    | false => rfl
    | true =>
      -- the name is the root's, and whether the channel hangs on it or not, the root's level holds
      have hmem : a ∈ ancestors name := by
        rw [h.nearestAbove?_eq] at hnearest
        exact List.mem_of_find?_eq_some hnearest
      have hroot := effectiveLevel_of_isRoot (isRoot_of_beginsRootName hbegins (h.above a hmem)) s
      cases s.knownBefore name a with
      | false => rfl
      | true => exact hroot.symm

theorem ownLevel_of_unknown (hroot : isRoot name = false)
    (h : (s.channels.lookup name).isSome = false) : s.ownLevel name = 0 := by
  rw [State.ownLevel, hroot, Option.not_isSome_iff_eq_none.1 (Bool.eq_false_iff.1 h)]
  rfl

/-- **The level that holds for a channel of an ordinary name** is its own, or that of the nearest
name above it that has one, or the root's. -/
theorem Ordinary.effectiveLevel_eq (h : Ordinary name) (s : State) :
    s.effectiveLevel name = s.nearestLevel name := by
  induction hlength : name.toList.length using Nat.strongRecOn generalizing name with
  | ind length ih =>
    subst hlength
    by_cases hown : s.ownLevel name = 0
    · rw [h.effectiveLevel_of_own hown]
      have hnearest := h.nearestAbove?_eq s
      rcases h.cases with hnil | ⟨a, ha, hshorter, hcons⟩
      · rw [hnil] at hnearest
        rw [hnearest]
        simp [State.nearestLevel, hown, hnil]
      · have hlevel : s.nearestLevel name = s.nearestLevel a := by
          simp [State.nearestLevel, hown, hcons]
        rw [hlevel, ← ih _ hshorter ha rfl]
        rw [hcons, List.find?_cons] at hnearest
        cases hknown : decide (a ≠ "") && (s.channels.lookup a).isSome with
        | true => rw [hnearest, hknown]
        | false =>
          rw [hnearest, hknown, ← ha.nearestAbove?_eq]
          cases hroot : isRoot a with
          | true => rw [nearestAbove?_of_isRoot hroot, effectiveLevel_of_isRoot hroot]
          | false =>
            have hne : a ≠ "" := fun he => by simp [he, isRoot] at hroot
            rw [decide_eq_true hne, Bool.true_and] at hknown
            exact (ha.effectiveLevel_of_own (ownLevel_of_unknown hroot hknown)).symm
    · rw [SqlText.Log.effectiveLevel_eq, if_pos hown]
      simp [State.nearestLevel, hown]

/-! ## What the levels hang on -/

@[simp] theorem rootLevel_register (s : State) (name : String) :
    (s.register name).rootLevel = s.rootLevel := by
  unfold State.register; split <;> rfl

@[simp] theorem decided_register (s : State) (name : String) :
    (s.register name).decided = s.decided := by
  unfold State.register; split <;> rfl

/-- A channel that becomes known has no level of its own. -/
@[simp] theorem ownLevel_register (s : State) (known name : String) :
    (s.register known).ownLevel name = s.ownLevel name := by
  unfold State.register
  split
  · rfl
  · simp only [State.ownLevel, List.lookup_append]
    cases s.channels.lookup name with
    | some level => rfl
    | none =>
      rw [Option.none_or, List.lookup_cons]
      cases name == known <;> rfl

/-- **Channels that become known change no level of the names above a name.** -/
@[simp] theorem nearestLevel_register (s : State) (known name : String) :
    (s.register known).nearestLevel name = s.nearestLevel name := by
  have hown : (s.register known).ownLevel = s.ownLevel := funext (ownLevel_register s known)
  rw [State.nearestLevel, State.nearestLevel, hown, rootLevel_register]

/-- The level that holds hangs on the channels and the root's level alone. -/
theorem effectiveLevel_congr {t : State} (hchannels : t.channels = s.channels)
    (hroot : t.rootLevel = s.rootLevel) (name : String) :
    t.effectiveLevel name = s.effectiveLevel name := by
  have hown : ∀ name, t.ownLevel name = s.ownLevel name := fun name => by
    rw [State.ownLevel, State.ownLevel, hchannels, hroot]
  have hparent : ∀ name, t.parent? name = s.parent? name := fun name => by
    simp only [State.parent?, State.nearestAbove?, State.knownBefore, hchannels]
  have hfrom : ∀ fuel name, t.levelFrom fuel name = s.levelFrom fuel name := fun fuel => by
    induction fuel with
    | zero => exact fun _ => hroot
    | succ fuel ih => exact fun name => by simp only [State.levelFrom, hown, hparent, hroot, ih]
  rw [State.effectiveLevel, State.effectiveLevel, hroot, hfrom]

theorem Ordinary.admits_iff (h : Ordinary name) {level : Level} :
    s.admits name level = true ↔ 0 < level ∧ s.nearestLevel name ≤ level := by
  rw [State.admits, h.effectiveLevel_eq, Bool.and_eq_true, decide_eq_true_iff, decide_eq_true_iff]

end SqlText.Log
