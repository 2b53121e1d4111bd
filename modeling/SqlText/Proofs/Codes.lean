import SqlText.Proofs.Template.Fields

/-!
# Taking codes out of a text

A **code** is a run of characters that starts with an escape character and has no other in it. To
take a code out of a text is to read the text from left to right and to leave out every occurrence
of the code (`takeOut`). What is read of a text in this way is told run by run (`Reads`): the code
itself leaves nothing and counts once, and text without an escape character stays as it is, as does
any other code that neither starts with the code nor is the start of it.

So where a code was put into the gaps of a text that has no escape character in it, taking it out
leaves the text that would be there without it, and it is found as often as there are gaps
(`reads_closeGaps`).
-/

namespace SqlText.Text

variable {code other xs xs' out out' : List Char} {n n' : Nat}

/-- The character that codes start with. -/
def escape : Char := '\x1b'

/-- A text **read for a code**: its characters, and nothing in the place of each occurrence of the
code. The first `skip` characters belong to the occurrence in front of them. -/
def readFor (code : List Char) (skip : Nat) : List Char → List (Option Char)
  | [] => []
  | c :: rest =>
    match skip with
    | skip + 1 => readFor code skip rest
    | 0 =>
      if code <+: c :: rest then none :: readFor code (code.length - 1) rest
      else some c :: readFor code 0 rest

/-- **A text without a code.** -/
def takeOut (code cs : List Char) : List Char := (readFor code 0 cs).filterMap id

/-- How often a code is found in a text. -/
def timesFound (code cs : List Char) : Nat := (readFor code 0 cs).count none

/-- A run of characters is a code. -/
def IsCode (code : List Char) : Prop := code.head? = some escape ∧ escape ∉ code.tail

instance : DecidablePred IsCode :=
  fun _ => inferInstanceAs (Decidable (_ ∧ _))

theorem IsCode.eq_cons (h : IsCode code) : ∃ body, code = escape :: body ∧ escape ∉ body := by
  obtain ⟨body, rfl⟩ := List.head?_eq_some_iff.1 h.1
  exact ⟨body, rfl, h.2⟩

/-- A run of characters **is read**, whatever follows it: some characters are left of it, and the
code is found in it a number of times. -/
def Reads (code xs out : List Char) (n : Nat) : Prop :=
  ∀ ys, takeOut code (xs ++ ys) = out ++ takeOut code ys
    ∧ timesFound code (xs ++ ys) = n + timesFound code ys

theorem reads_nil (code : List Char) : Reads code [] [] 0 := fun _ => ⟨rfl, (Nat.zero_add _).symm⟩

theorem Reads.append (h : Reads code xs out n) (h' : Reads code xs' out' n') :
    Reads code (xs ++ xs') (out ++ out') (n + n') := by
  intro ys
  rw [List.append_assoc, (h _).1, (h _).2, (h' ys).1, (h' ys).2]
  exact ⟨(List.append_assoc _ _ _).symm, (Nat.add_assoc _ _ _).symm⟩

theorem Reads.all (h : Reads code xs out n) : takeOut code xs = out ∧ timesFound code xs = n := by
  have hend := h []
  rwa [List.append_nil, show takeOut code [] = [] from rfl, show timesFound code [] = 0 from rfl,
    List.append_nil] at hend

/-- A character at which the code does not start. -/
theorem Reads.cons {c : Char} (hno : ∀ ys, ¬ code <+: c :: (xs ++ ys)) (h : Reads code xs out n) :
    Reads code (c :: xs) (c :: out) n := by
  intro ys
  have hread : readFor code 0 (c :: (xs ++ ys)) = some c :: readFor code 0 (xs ++ ys) :=
    if_neg (hno ys)
  rw [takeOut, timesFound, List.cons_append, hread]
  exact ⟨congrArg (c :: ·) (h ys).1, (List.count_cons_of_ne (Option.some_ne_none c)).trans (h ys).2⟩

/-- Text without an escape character stays as it is. -/
theorem reads_plain (h : IsCode code) (hxs : escape ∉ xs) : Reads code xs xs 0 := by
  obtain ⟨body, rfl, -⟩ := h.eq_cons
  induction xs with
  | nil => exact reads_nil _
  | cons c rest ih =>
    obtain ⟨hc, hrest⟩ := not_or.1 (mt List.mem_cons.2 hxs)
    exact .cons (fun ys hprefix => hc (List.cons_prefix_cons.1 hprefix).1) (ih hrest)

/-- So does another code. -/
theorem reads_other (h : IsCode code) (hother : IsCode other) (hcode : ¬ code <+: other)
    (hstart : ¬ other <+: code) : Reads code other other 0 := by
  obtain ⟨body, rfl, hbody⟩ := hother.eq_cons
  refine .cons (fun ys hprefix => ?_) (reads_plain h hbody)
  rcases List.prefix_or_prefix_of_prefix hprefix (List.prefix_append (escape :: body) ys) with
    hfound | hfound
  · exact hcode hfound
  · exact hstart hfound

theorem readFor_skip (code xs ys : List Char) :
    readFor code xs.length (xs ++ ys) = readFor code 0 ys := by
  induction xs with
  | nil => rfl
  | cons c rest ih => exact ih

/-- **The code itself leaves nothing** and is found once. -/
theorem reads_code (h : IsCode code) : Reads code code [] 1 := by
  intro ys
  have hread : readFor code 0 (code ++ ys) = none :: readFor code 0 ys := by
    obtain ⟨body, rfl, -⟩ := h.eq_cons
    rw [List.cons_append, readFor, if_pos ⟨ys, rfl⟩]
    exact congrArg (none :: ·) (readFor_skip _ body ys)
  rw [takeOut, timesFound, hread]
  exact ⟨rfl, List.count_cons_self.trans (Nat.add_comm _ _)⟩

/-- **What stands in the gaps of a text** is read once for each gap, and the text around them, which
has no escape character in it, stays as it is. -/
theorem reads_closeGaps {spans : List (Option (List Char))} (h : IsCode code)
    (hgap : Reads code xs out n) (hspans : ∀ cs, some cs ∈ spans → escape ∉ cs) :
    Reads code (Template.closeGaps xs spans) (Template.closeGaps out spans)
      (n * spans.count none) := by
  induction spans with
  | nil => exact reads_nil code
  | cons span rest ih =>
    have hrest := ih fun cs hcs => hspans cs (List.mem_cons_of_mem _ hcs)
    cases span with
    | none =>
      have hcount : n * (none :: rest).count none = n + n * rest.count none := by
        rw [List.count_cons_self, Nat.mul_succ, Nat.add_comm]
      exact hcount ▸ hgap.append hrest
    | some cs =>
      have hcount : n * (some cs :: rest).count none = 0 + n * rest.count none := by
        rw [List.count_cons_of_ne (Option.some_ne_none cs), Nat.zero_add]
      exact hcount ▸ (reads_plain h (hspans cs List.mem_cons_self)).append hrest

end SqlText.Text
