import Mathlib
import SqlText.Settings

/-!
# Environments that ask for the same settings

Much of what an environment says does not count. The case of ASCII letters counts neither in the
word for the level nor in the one that switches colors on, and blanks around the latter do not
count either; a variable that is unset stands for its default, and for two of them an empty text
does so too. Environments that differ in nothing else are **alike** (`Environment.Alike`).

Alike environments ask for the same settings but for the directory. An unset directory is replaced
by the usual one where settings are read, and an empty one where logging is set up, so the settings
keep the two apart (`Environment.Alike.settings`).
-/

namespace SqlText

namespace Text

variable {a b : List Char}

/-! ## Case -/

/-- Two texts are **the same but for the case** of ASCII letters. -/
def SameButCase (a b : List Char) : Prop := a.map Char.toLower = b.map Char.toLower

instance : DecidableRel SameButCase :=
  fun a b => inferInstanceAs (Decidable (a.map Char.toLower = b.map Char.toLower))

theorem toNat_of_isUpper {c : Char} (h : c.isUpper = true) : 65 ≤ c.toNat ∧ c.toNat ≤ 90 := by
  simpa [Char.isUpper, UInt32.le_iff_toNat_le] using h

/-- The lower case of a capital letter of ASCII. -/
theorem toNat_toLower_of_isUpper {c : Char} (h : c.isUpper = true) :
    c.toLower.toNat = c.toNat + 32 := by
  obtain ⟨-, hle⟩ := toNat_of_isUpper h
  have hvalid : (c.toNat + 32).isValidChar := by
    unfold Nat.isValidChar
    omega
  rw [Char.toLower_eq_of_isUpper h, Char.toNat_ofNat, if_pos hvalid]

/-- A letter and its lower case have the same upper case. -/
theorem upperChar_toLower (c : Char) : upperChar c.toLower = upperChar c := by
  by_cases h : c.isUpper = true
  · obtain ⟨-, hle⟩ := toNat_of_isUpper h
    have hsmall : c.toNat < 0x80 := by omega
    have hsmall' : c.toLower.toNat < 0x80 := by
      rw [toNat_toLower_of_isUpper h]
      omega
    rw [upperChar, upperChar, if_pos hsmall, if_pos hsmall', Char.toUpper_toLower_eq_toUpper]
  · rw [Char.toLower_eq_of_not_isUpper h]

/-- **The upper case of a text** does not tell its case. -/
theorem upper_congr {s t : String} (h : SameButCase s.toList t.toList) : upper s = upper t := by
  have hlower : ∀ cs : List Char,
      cs.flatMap upperChar = (cs.map Char.toLower).flatMap upperChar := by
    intro cs
    simp only [List.flatMap_map, upperChar_toLower]
  rw [upper, upper, hlower, hlower t.toList, h]

/-! ## Blanks -/

/-- A letter is no blank, in whatever case. -/
theorem isBlankChar_toLower (c : Char) : isBlankChar c.toLower = isBlankChar c := by
  by_cases h : c.isUpper = true
  · obtain ⟨hge, hle⟩ := toNat_of_isUpper h
    have hletter : ∀ n : Nat, 65 ≤ n → n ≤ 122 → inRanges blankRanges n = false := by
      intro n hn hn'
      simp only [inRanges, blankRanges, List.any_cons, List.any_nil, Bool.or_false,
        Bool.or_eq_false_iff, Bool.and_eq_false_imp, decide_eq_true_eq, decide_eq_false_iff_not,
        not_le]
      omega
    rw [isBlankChar, isBlankChar, toNat_toLower_of_isUpper h, hletter _ (by omega) (by omega),
      hletter _ hge (by omega)]
  · rw [Char.toLower_eq_of_not_isUpper h]

/-- What is trimmed does not hang on the case. -/
theorem trimBlanks_map_toLower (cs : List Char) :
    trimBlanks (cs.map Char.toLower) = (trimBlanks cs).map Char.toLower := by
  have hdrop : ∀ cs : List Char, (cs.map Char.toLower).dropWhile isBlankChar
      = (cs.dropWhile isBlankChar).map Char.toLower := by
    intro cs
    rw [List.dropWhile_map]
    exact congrArg (fun p => (cs.dropWhile p).map Char.toLower) (funext isBlankChar_toLower)
  rw [trimBlanks, hdrop, ← List.map_reverse, hdrop, ← List.map_reverse, trimBlanks]

/-- A text with blanks around it. -/
def Padded (word a : List Char) : Prop :=
  ∃ before behind, (∀ c ∈ before, isBlankChar c = true) ∧ (∀ c ∈ behind, isBlankChar c = true)
    ∧ a = before ++ (word ++ behind)

/-- **Blanks around a text** are trimmed with its own. -/
theorem Padded.trimBlanks_eq {word : List Char} (h : Padded word a) :
    trimBlanks a = trimBlanks word := by
  obtain ⟨before, behind, hbefore, hbehind, rfl⟩ := h
  unfold trimBlanks
  rw [List.dropWhile_append_of_pos hbefore, List.dropWhile_append]
  cases hword : word.dropWhile isBlankChar with
  | nil => simp [dropBlanks_eq_nil_iff.2 hbehind]
  | cons c rest =>
    have hbehind' : ∀ c ∈ behind.reverse, isBlankChar c = true :=
      fun c hc => hbehind c (List.mem_reverse.1 hc)
    rw [if_neg (by simp), List.reverse_append, List.dropWhile_append_of_pos hbehind']

/-- Two texts hold **the same word**: they are the same but for blanks around them and the case of
ASCII letters. -/
def SameWord (a b : List Char) : Prop :=
  ∃ word word', Padded word a ∧ Padded word' b ∧ SameButCase word word'

theorem SameWord.trimBlanks (h : SameWord a b) :
    (Text.trimBlanks a).map Char.toLower = (Text.trimBlanks b).map Char.toLower := by
  obtain ⟨word, word', ha, hb, hcase⟩ := h
  rw [ha.trimBlanks_eq, hb.trimBlanks_eq, ← trimBlanks_map_toLower, ← trimBlanks_map_toLower, hcase]

end Text

namespace Settings

theorem isYes_congr {s t : String} (h : Text.SameWord s.toList t.toList) : isYes s = isYes t := by
  rw [isYes, isYes, h.trimBlanks]

end Settings

/-! ## Environments -/

/-- **Two environments are alike** where they differ in nothing that counts. -/
structure Environment.Alike (env env' : Environment) : Prop where
  /-- The word for the level, in whatever case. -/
  level : Text.SameButCase ((env.lookup "SQLBUILDER_LOG_LEVEL").getD "INFO").toList
    ((env'.lookup "SQLBUILDER_LOG_LEVEL").getD "INFO").toList
  /-- The name of the log file, where none is as good as an empty one. -/
  file : env.lookup "SQLBUILDER_LOG_FILE" = env'.lookup "SQLBUILDER_LOG_FILE"
    ∨ env.lookup "SQLBUILDER_LOG_FILE" ∈ [none, some ""]
      ∧ env'.lookup "SQLBUILDER_LOG_FILE" ∈ [none, some ""]
  /-- The directory, where none and an empty one are as good as the usual one. -/
  directory : env.lookup "SQLBUILDER_LOG_DIR" = env'.lookup "SQLBUILDER_LOG_DIR"
    ∨ env.lookup "SQLBUILDER_LOG_DIR" ∈ [none, some "", some "logs"]
      ∧ env'.lookup "SQLBUILDER_LOG_DIR" ∈ [none, some "", some "logs"]
  /-- The word for colors, between whatever blanks and in whatever case. -/
  colors : Text.SameWord ((env.lookup "SQLBUILDER_LOG_COLORS").getD "true").toList
    ((env'.lookup "SQLBUILDER_LOG_COLORS").getD "true").toList

variable {env env' : Environment}

theorem Settings.file_eq_none (h : env.lookup "SQLBUILDER_LOG_FILE" ∈ [none, some ""]) :
    (Settings.ofEnvironment env).file = none := by
  simp only [List.mem_cons, List.not_mem_nil, or_false] at h
  rcases h with h | h <;> simp only [Settings.ofEnvironment, h]

theorem Settings.directory_mem
    (h : env.lookup "SQLBUILDER_LOG_DIR" ∈ [none, some "", some "logs"]) :
    (Settings.ofEnvironment env).directory ∈ ["", "logs"] := by
  simp only [List.mem_cons, List.not_mem_nil, or_false] at h
  rcases h with h | h | h <;> simp [Settings.ofEnvironment, h]

/-- **Alike environments ask for the same settings**, and for the same directory unless each asks
for the usual one in its own way. -/
theorem Environment.Alike.settings (h : Environment.Alike env env') :
    (Settings.ofEnvironment env).level = (Settings.ofEnvironment env').level
      ∧ (Settings.ofEnvironment env).file = (Settings.ofEnvironment env').file
      ∧ (Settings.ofEnvironment env).colors = (Settings.ofEnvironment env').colors
      ∧ ((Settings.ofEnvironment env).directory = (Settings.ofEnvironment env').directory
        ∨ (Settings.ofEnvironment env).directory ∈ ["", "logs"]
          ∧ (Settings.ofEnvironment env').directory ∈ ["", "logs"]) := by
  refine ⟨?_, ?_, ?_, ?_⟩
  · simp only [Settings.ofEnvironment, Text.upper_congr h.level]
  · rcases h.file with hsame | ⟨hnone, hnone'⟩
    · simp only [Settings.ofEnvironment, hsame]
    · rw [Settings.file_eq_none hnone, Settings.file_eq_none hnone']
  · simp only [Settings.ofEnvironment, Settings.isYes_congr h.colors]
  · rcases h.directory with hsame | ⟨husual, husual'⟩
    · exact .inl (by simp only [Settings.ofEnvironment, hsame])
    · exact .inr ⟨Settings.directory_mem husual, Settings.directory_mem husual'⟩

end SqlText
