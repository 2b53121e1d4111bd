import SqlText.Proofs.Composer.Answers
import SqlText.Proofs.Composer.Refusals

/-!
# What the log hears of refused calls

A call that is refused says so in the log, once, with the argument that was refused or the join that
came too early; a call that goes through says nothing. **One refusal goes unheard**: that of a
further condition on groups without a connective. The call has checked the condition and hands it
to the draft, and the draft refuses the connective without a word to the log (`refusals_reported`
says that there is no other such refusal, and `unconnected_unreported` that there is this one).

So of calls one after another, and the statement rendered behind them, the log hears at most once:
of the first call that is refused, or of the statement (`written_answerAll_calls`).
-/

namespace SqlText.Composer

variable {c : Composer} {d : Draft} {k : Call} {r : Refusal}

/-- **A condition on groups that is not connected** to those before it: nothing is wrong with the
condition, but there are others, and the connective is blank. -/
def Call.Unconnected (d : Draft) : Call → Prop
  | .having test connective =>
    test.isBlank = false ∧ connective.isBlank = true ∧ d.fragments .having ≠ []
  | _ => False

/-- What there is to say of a refused call: which join came too early, or what is wrong with the
argument – with the column, where one of several is refused. -/
def Call.remark (k : Call) (r : Refusal) : String :=
  match k, r with
  | .join kind table _ _, .joinBeforeSource =>
    "Rejected " ++ kind.keyword ++ " of '" ++ table.toText
      ++ "': " ++ Refusal.joinBeforeSource.message
  | _, r => "Rejected clause argument: " ++ r.root.message

/-! ## The refusal that is not reported -/

/-- A call is refused for its connective where it is not connected, and only there. -/
theorem head?_objections_connective_iff :
    (k.objections d).head? = some (.edit (.blankConnective .having)) ↔ k.Unconnected d := by
  rw [head?_objections]
  have hblank : (blanks k.required).head? ≠ some (.edit (.blankConnective .having)) := by
    intro h
    obtain ⟨a, -, ha⟩ := List.mem_map.1 (List.mem_of_mem_head? h)
    cases ha
  rw [or_iff_right hblank]
  cases k with
  | having test connective =>
    by_cases hcut : d.fragments .having ≠ [] ∧ connective.isBlank = true
    · simp [Call.required, Call.laterObjections, Call.Unconnected, hcut]
    · have hlater : (Call.having test connective).laterObjections d = [] := if_neg hcut
      rw [hlater]
      exact iff_of_false (fun h => by simp at h) fun h => hcut ⟨h.2.2, h.2.1⟩
  | join kind table label test =>
    refine iff_of_false (fun h => ?_) id
    have hjoin := (List.mem_ite_nil_right.1 (List.mem_of_mem_head? h.2)).2
    simp at hjoin
  | selectColumns table columns aliases =>
    refine iff_of_false (fun h => ?_) id
    rcases mem_columnsObjections (List.mem_of_mem_head? h.2) with ⟨⟨v, hr⟩, -⟩ | ⟨n, m, hr⟩
      | ⟨role, hr⟩ <;> cases hr
  | _ => simp [Call.laterObjections, Call.Unconnected]

/-- **What a refused call reports**: nothing of a connective, and of everything else what there is
to say. -/
theorem report_of_mem_objections (hr : r ∈ k.objections d) (hsort : r.sort ≠ .kind) :
    k.report r = [] ∧ r = .edit (.blankConnective .having)
      ∨ k.report r = [.debug channel (k.remark r)] ∧ r ≠ .edit (.blankConnective .having) := by
  rcases mem_objections hr with ⟨role, rfl⟩ | rfl | ⟨⟨kind, table, label, test, rfl⟩, rfl⟩
    | ⟨table, columns, aliases, rfl, hcolumns⟩
  · refine .inr ⟨?_, by simp⟩
    cases k <;> rfl
  · exact .inl ⟨rfl, rfl⟩
  · exact .inr ⟨rfl, by simp⟩
  · rcases mem_columnsObjections hcolumns with ⟨⟨v, rfl⟩, -⟩ | ⟨n, m, rfl⟩ | ⟨role, rfl⟩
    · exact absurd rfl hsort
    · exact .inr ⟨rfl, by simp⟩
    · exact .inr ⟨rfl, by simp⟩

/-! ## Answers and what is said with them -/

theorem reply_call_refused_iff :
    reply c (.call k) = .error (.refused r) ↔ (k.objections c.draft).head? = some r := by
  unfold reply
  rw [run_answer_call]
  cases k.objections c.draft <;> simp

theorem said_of_refused (h : (k.objections c.draft).head? = some r) :
    said c (.call k) = k.report r := by
  obtain ⟨rest, hobj⟩ := List.head?_eq_some_iff.1 h
  unfold said
  rw [run_answer_call, hobj]

/-- No request but a clause call is refused as one. -/
theorem exists_call_of_refused {q : Request} (h : reply c q = .error (.refused r)) :
    ∃ k, q = .call k := by
  cases q with
  | call k => exact ⟨k, rfl⟩
  | render =>
    rw [reply_render] at h
    cases hs : c.draft.statement <;> simp [hs, Except.map] at h
  | text =>
    rw [reply, run_answer_text, reply_render] at h
    cases hs : c.draft.statement <;> simp [hs, Except.map] at h
  | latest | clauses | describe => cases h
  | handOff =>
    rw [reply_handOff] at h
    cases hs : c.draft.statement with
    | error e => simp [hs] at h
    | ok s =>
      simp only [hs] at h
      split at h <;> simp at h
  | insert table columns values =>
    have hanswer : reply c (.insert table columns values)
        = ((Insert.statement table columns values).mapError Failure.insert).map Reply.text := by
      show ((Attempt.ofExcept ((Insert.statement table columns values).mapError Failure.insert)
        >>= fun s => pure (Reply.text s)).run c).result = _
      cases Insert.statement table columns values <;> rfl
    rw [hanswer] at h
    cases hs : Insert.statement table columns values <;>
      simp [hs, Except.map] at h

/-- **Refused calls are reported, but for one.** A clause call that is refused for an unfit argument
or because it comes too early says so once, unless it is a condition on groups that is not
connected; that one says nothing. A call that goes through says nothing either, and no other request
is refused for such a reason. -/
theorem refusals_reported (c : Composer) (k : Call) :
    (∀ r, reply c (.call k) = .error (.refused r) → r.sort = .invalid ∨ r.sort = .order →
        (said c (.call k) = [.debug channel (k.remark r)] ↔ ¬ k.Unconnected c.draft)
          ∧ (k.Unconnected c.draft → said c (.call k) = []))
      ∧ (reply c (.call k) = .ok .done → said c (.call k) = [])
      ∧ ∀ q r, reply c q = .error (.refused r) → ∃ k, q = .call k := by
  refine ⟨fun r hr hsort => ?_, fun h => ?_, fun q r => exists_call_of_refused⟩
  · have hhead := reply_call_refused_iff.1 hr
    have hkind : r.sort ≠ .kind := by rcases hsort with h | h <;> simp [h]
    have hconnective : r = .edit (.blankConnective .having) ↔ k.Unconnected c.draft := by
      rw [← head?_objections_connective_iff, hhead, Option.some_inj]
    rw [said_of_refused hhead, ← hconnective]
    rcases report_of_mem_objections (List.mem_of_mem_head? hhead) hkind with
      ⟨hnone, heq⟩ | ⟨hone, hne⟩
    · rw [hnone]
      exact ⟨iff_of_false (List.cons_ne_nil _ _).symm (not_not_intro heq), fun _ => rfl⟩
    · rw [hone]
      exact ⟨iff_of_true rfl hne, fun heq => absurd heq hne⟩
  · unfold reply said at *
    rw [run_answer_call] at h ⊢
    cases hobj : k.objections c.draft with
    | nil => rfl
    | cons r rest => simp [hobj] at h

/-- A condition on groups behind another, with a connective that is not there: it is refused as an
unfit argument, and the log hears nothing. -/
theorem unconnected_unreported :
    let c := runAll fresh [.call (.having (.text "a") (.text "AND"))]
    let k : Call := .having (.text "b") (.text "")
    reply c (.call k) = .error (.refused (.edit (.blankConnective .having)))
      ∧ Refusal.sort (.edit (.blankConnective .having)) = .invalid
      ∧ said c (.call k) = [] :=
  ⟨rfl, rfl, rfl⟩

/-! ## Calls one after another -/

/-- **What clause calls have to say**, one after another, and the statement that is rendered behind
them: what is reported of the first that is refused, and where none is, what was rendered. -/
def lastWords (c : Composer) : List Call → List Log.Entry
  | [] =>
    match c.draft.statement with
    | .ok s => [renderedEntry s]
    | .error _ => []
  | k :: rest =>
    match k.objections c.draft with
    | [] => (c.accept k).lastWords rest
    | r :: _ => k.report r

/-- That is all that is said when they are answered. -/
theorem written_answerAll_calls (c : Composer) (ks : List Call) :
    ((answerAll (ks.map .call)).run c).written = c.lastWords ks := by
  induction ks generalizing c with
  | nil =>
    unfold lastWords
    cases h : c.draft.statement with
    | ok s => exact congrArg Outcome.written (run_render_ok h)
    | error e => exact congrArg Outcome.written (run_render_error h)
  | cons k rest ih =>
    have hanswer := run_answer_call k c
    unfold lastWords
    cases hobj : k.objections c.draft with
    | nil =>
      rw [hobj] at hanswer
      rw [List.map_cons, answerAll, Attempt.run_bind_ok hanswer]
      exact ih (c.accept k)
    | cons r others =>
      rw [hobj] at hanswer
      rw [List.map_cons, answerAll, Attempt.run_bind_error hanswer]

end SqlText.Composer
