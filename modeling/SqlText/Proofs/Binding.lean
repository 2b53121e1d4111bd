import Mathlib.Data.List.TakeWhile
import SqlText.Binding

/-!
# Bind parameters of texts put together

Whether a colon in a text opens a bind parameter depends on what stands next to it: the character
before the colon and the one behind the word. So the parameters of two texts are in general not
those of the one written behind the other, where a parameter may be cut off, run on or come up
anew at the seam.

They are where something **neutral** stands at the seam (`Neutral`): a text without a colon, with a
character in front that ends a word and one at the end that lets a colon count. It does not matter
then what the texts around it are (`named_neutral`), and any number of texts with neutral text
between them has the parameters of all of them, in order (`named_intercalate`).
-/

namespace SqlText.Binding

variable {p q : Option Char} {n cs xs ys : List Char} {s t g : String}

/-! ## Names -/

/-- Whether the character behind a word – none at the end of the text – lets the word be a name. -/
def closes : Option Char → Bool
  | none => true
  | some c => !(c == ':' || Text.isWord c)

/-- **A name and what stands behind it**: a word that is not empty, and neither a colon nor more of
the word. -/
def IsName (n after : List Char) : Prop :=
  n ≠ [] ∧ (∀ c ∈ n, Text.isWord c = true) ∧ closes after.head? = true

/-- **A text names a bind parameter**: somewhere in it there is a colon that may open one, and the
name behind it. -/
def Names (s t : String) : Prop :=
  ∃ before after, s.toList = before ++ ':' :: (t.toList ++ after)
    ∧ opens before.getLast? = true ∧ IsName t.toList after

theorem not_isWord_of_closes {c : Char} (h : closes (some c) = true) : Text.isWord c = false := by
  simp only [closes, Bool.not_eq_true', Bool.or_eq_false_iff] at h
  exact h.2

/-- **The name behind a colon** is the one name that the text behind the colon starts with. -/
theorem name?_eq_some_iff : name? cs = some n ↔ ∃ after, cs = n ++ after ∧ IsName n after := by
  unfold name?
  constructor
  · intro h
    have hparts : cs.takeWhile Text.isWord ++ cs.dropWhile Text.isWord = cs :=
      List.takeWhile_append_dropWhile
    have hword : ∀ c ∈ cs.takeWhile Text.isWord, Text.isWord c = true :=
      fun c => List.mem_takeWhile_imp
    have hstop := List.head?_dropWhile_not Text.isWord cs
    generalize cs.takeWhile Text.isWord = word at h hparts hword
    generalize cs.dropWhile Text.isWord = after at h hparts hstop
    subst hparts
    split at h
    · cases h
    · cases h
    · next hne hcolon =>
      obtain rfl := Option.some.inj h
      refine ⟨after, rfl, hne, hword, ?_⟩
      cases after with
      | nil => rfl
      | cons c rest =>
        have hc : c ≠ ':' := fun hc => hcolon rest (by rw [hc])
        have hstop : Text.isWord c = false := hstop
        simp [closes, hc, hstop]
  · rintro ⟨after, rfl, hne, hword, hafter⟩
    have hfront : ∀ c ∈ after.head?, Text.isWord c = false := by
      intro c hc
      rw [hc] at hafter
      exact not_isWord_of_closes hafter
    have htake : (n ++ after).takeWhile Text.isWord = n := by
      rw [List.takeWhile_append_of_pos hword]
      cases after <;> simp_all
    have hdrop : (n ++ after).dropWhile Text.isWord = after := by
      rw [List.dropWhile_append_of_pos hword]
      cases after <;> simp_all
    rw [htake, hdrop]
    split
    · next hnil => exact absurd rfl hne
    · next rest => simp [closes] at hafter
    · rfl

/-- What closes a word keeps a name from running on. -/
theorem name?_append (h : closes ys.head? = true) : name? (xs ++ ys) = name? xs := by
  refine Option.ext fun n => ?_
  rw [name?_eq_some_iff, name?_eq_some_iff]
  constructor
  · rintro ⟨after, hcut, hne, hword, hafter⟩
    rcases List.append_eq_append_iff.1 hcut with ⟨rest, rfl, rfl⟩ | ⟨rest, rfl, rfl⟩
    · -- the name would take in the front of what closes it
      cases rest with
      | nil => exact ⟨[], by simp, by simpa using hne, by simpa using hword, rfl⟩
      | cons c rest =>
        have hc : Text.isWord c = true := hword c (by simp)
        exact absurd hc (by simp [not_isWord_of_closes h])
    · refine ⟨rest, rfl, hne, hword, ?_⟩
      cases rest with
      | nil => rfl
      | cons c rest => exact hafter
  · rintro ⟨after, rfl, hne, hword, hafter⟩
    refine ⟨after ++ ys, by rw [List.append_assoc], hne, hword, ?_⟩
    cases after with
    | nil => exact h
    | cons c rest => exact hafter

/-! ## Occurrences -/

theorem occurrences_congr (h : opens p = opens q) (cs : List Char) :
    occurrences p cs = occurrences q cs := by
  cases cs with
  | nil => rfl
  | cons c rest => rw [occurrences, occurrences, h]

theorem getLast?_or (c : Char) (rest : List Char) (p : Option Char) :
    rest.getLast?.or (some c) = (c :: rest).getLast?.or p := by
  rw [List.getLast?_cons]
  cases rest.getLast? <;> rfl

/-- **An occurrence of a bind parameter**: a colon that opens it, and a name. -/
theorem mem_occurrences_iff :
    n ∈ occurrences p cs ↔ ∃ before after, cs = before ++ ':' :: (n ++ after)
      ∧ opens (before.getLast?.or p) = true ∧ IsName n after := by
  induction cs generalizing p with
  | nil => simp [occurrences]
  | cons c rest ih =>
    have hhere : n ∈ (if c = ':' ∧ opens p = true then (name? rest).toList else [])
        ↔ c = ':' ∧ opens p = true ∧ ∃ after, rest = n ++ after ∧ IsName n after := by
      rw [← name?_eq_some_iff]
      split <;> simp_all
    have hsplit : occurrences p (c :: rest)
        = (if c = ':' ∧ opens p = true then (name? rest).toList else [])
          ++ occurrences (some c) rest := by
      rw [occurrences]
      split <;> rfl
    rw [hsplit, List.mem_append, hhere, ih]
    constructor
    · rintro (⟨rfl, hp, after, rfl, hname⟩ | ⟨before, after, rfl, hopen, hname⟩)
      · exact ⟨[], after, rfl, hp, hname⟩
      · exact ⟨c :: before, after, rfl, by rwa [← getLast?_or c before p], hname⟩
    · rintro ⟨before, after, hcut, hopen, hname⟩
      cases before with
      | nil =>
        obtain ⟨rfl, rfl⟩ := List.cons.inj hcut
        exact .inl ⟨rfl, hopen, after, rfl, hname⟩
      | cons d before =>
        obtain ⟨rfl, rfl⟩ := List.cons.inj hcut
        exact .inr ⟨before, after, rfl, by rwa [getLast?_or c before p], hname⟩

/-- A text without a colon is passed over. -/
theorem occurrences_passed (h : ':' ∉ xs) (p : Option Char) (ys : List Char) :
    occurrences p (xs ++ ys) = occurrences (xs.getLast?.or p) ys := by
  induction xs generalizing p with
  | nil => rfl
  | cons c rest ih =>
    have hc : ':' ≠ c := List.ne_of_not_mem_cons h
    rw [List.cons_append, occurrences, if_neg (fun hcolon => hc hcolon.1.symm),
      ih (List.not_mem_of_not_mem_cons h), getLast?_or c rest p]

/-- **A text is searched in parts**, cut where no name runs on. -/
theorem occurrences_append (h : closes ys.head? = true) (p : Option Char) :
    occurrences p (xs ++ ys) = occurrences p xs ++ occurrences (xs.getLast?.or p) ys := by
  induction xs generalizing p with
  | nil => rfl
  | cons c rest ih =>
    rw [List.cons_append, occurrences, occurrences, name?_append h, ih, getLast?_or c rest p]
    split <;> simp

/-! ## Neutral text -/

/-- The parameters of a text, one for each occurrence. -/
def named (s : String) : List String := (occurrences none s.toList).map String.ofList

/-- A text that may stand in front: it has no parameter and lets a colon behind it count. -/
def Leading (g : String) : Prop := ':' ∉ g.toList ∧ opens g.toList.getLast? = true

instance : DecidablePred Leading := fun _ => inferInstanceAs (Decidable (_ ∧ _))

/-- **A text that may stand between two others**: there is something to it, and it also closes what
stands before it. -/
def Neutral (g : String) : Prop := g ≠ "" ∧ closes g.toList.head? = true ∧ Leading g

instance : DecidablePred Neutral := fun _ => inferInstanceAs (Decidable (_ ∧ _ ∧ _))

theorem named_leading (h : Leading g) (t : String) : named (g ++ t) = named t := by
  have hprevious : opens (g.toList.getLast?.or none) = opens none := by
    rw [Option.or_none]
    exact h.2
  unfold named
  rw [String.toList_append, occurrences_passed h.1, occurrences_congr hprevious]

/-- **Neutral text keeps the parameters around it apart** and adds none. -/
theorem named_neutral (h : Neutral g) (s t : String) :
    named (s ++ (g ++ t)) = named s ++ named t := by
  obtain ⟨hne, hcloses, hleading⟩ := h
  have hfront : closes (g.toList ++ t.toList).head? = true := by
    cases hg : g.toList with
    | nil => exact absurd (String.toList_eq_nil_iff.1 hg) hne
    | cons c rest => rwa [hg] at hcloses
  have hprevious : opens (g.toList.getLast?.or (s.toList.getLast?.or none)) = opens none := by
    have hsome : g.toList.getLast? = some (g.toList.getLast (mt String.toList_eq_nil_iff.1 hne)) :=
      List.getLast?_eq_some_getLast _
    rw [hsome, Option.some_or, ← hsome]
    exact hleading.2
  unfold named
  rw [String.toList_append, String.toList_append, occurrences_append hfront,
    occurrences_passed hleading.1, occurrences_congr hprevious, List.map_append]

theorem named_terminated (h : Neutral g) (s : String) : named (s ++ g) = named s := by
  have hend := named_neutral h s ""
  rw [String.append_empty] at hend
  rw [hend]
  exact List.append_nil _

/-- **Texts with neutral text between them have the parameters of all of them.** -/
theorem named_intercalate (h : Neutral g) (ss : List String) :
    named (String.intercalate g ss) = ss.flatMap named := by
  induction ss with
  | nil => rfl
  | cons s rest ih =>
    cases rest with
    | nil => simp
    | cons t rest =>
      rw [String.intercalate_cons_cons, String.append_assoc, named_neutral h, ih]
      rfl

/-! ## Listing each name once -/

/-- The parameters of a text are its names, each at its first place. -/
theorem parameters_eq_distinct (s : String) : parameters s = distinct (named s) := by
  unfold parameters named
  generalize occurrences none s.toList = ns
  induction ns with
  | nil => rfl
  | cons n rest ih =>
    rw [List.map_cons, distinct, distinct, List.map_cons, ← ih, List.filter_map]
    congr 2
    refine List.filter_congr fun m _ => ?_
    simp [String.ofList_inj]

variable {α β : Type} [DecidableEq β]

/-- What is listed before is not listed again. -/
theorem distinct_append (xs ys : List β) :
    distinct (xs ++ ys) = distinct xs ++ (distinct ys).filter (· ∉ xs) := by
  induction xs with
  | nil => exact (List.filter_eq_self.2 fun _ _ => by simp).symm
  | cons x rest ih =>
    rw [List.cons_append, distinct, distinct, ih, List.filter_append, List.filter_filter,
      List.cons_append]
    congr 3
    funext y
    simp

/-- A list without repetitions is listed as it is. -/
theorem distinct_of_nodup {xs : List β} (h : xs.Nodup) : distinct xs = xs := by
  induction xs with
  | nil => rfl
  | cons x rest ih =>
    obtain ⟨hx, hrest⟩ := List.nodup_cons.1 h
    rw [distinct, ih hrest]
    congr 1
    refine List.filter_eq_self.2 fun y hy => ?_
    simpa using fun hyx : y = x => hx (hyx ▸ hy)

/-- **It does not matter whether repetitions are dropped part by part first.** -/
theorem distinct_flatMap_distinct (f : α → List β) (xs : List α) :
    distinct (xs.flatMap fun x => distinct (f x)) = distinct (xs.flatMap f) := by
  induction xs with
  | nil => rfl
  | cons x rest ih =>
    rw [List.flatMap_cons, List.flatMap_cons, distinct_append, distinct_append, ih,
      distinct_of_nodup (nodup_distinct (f x))]
    simp

/-- The parameters of texts are those that the texts name, whether each text is searched for its
own first or not. -/
theorem distinct_flatMap_parameters (f : α → String) (xs : List α) :
    distinct (xs.flatMap fun x => parameters (f x))
      = distinct (xs.flatMap fun x => named (f x)) := by
  simp only [parameters_eq_distinct]
  exact distinct_flatMap_distinct (fun x => named (f x)) xs

/-- **The bind parameters of a text are those that it names.** -/
theorem mem_parameters_iff : t ∈ parameters s ↔ Names s t := by
  have hmem : t ∈ parameters s ↔ t.toList ∈ occurrences none s.toList := by
    rw [parameters_eq_distinct, mem_distinct]
    constructor
    · intro h
      obtain ⟨n, hn, rfl⟩ := List.mem_map.1 h
      rwa [String.toList_ofList]
    · exact fun h => List.mem_map.2 ⟨_, h, String.ofList_toList⟩
  rw [hmem, mem_occurrences_iff]
  simp only [Option.or_none, Names]

end SqlText.Binding
