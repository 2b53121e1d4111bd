import SqlText.Proofs.Log.Files
import SqlText.Proofs.Log.Lines

/-!
# What is delivered

One record is handed from handler to handler, and each that takes its level writes one line of it,
whatever comes before it and behind it (`handOut_eq`).

The handlers that a setup puts in place are an **outfit**: a console or none, and behind it a file
or none, both at one level. What a run of entries comes to under an outfit is told by the entries
that pass and reach its level (`State.taken`): the console gets the line of each, in order, and so
does the file, at its end (`deliverAll_outfit`). The two are never out of step, since they are told
by one list of entries.
-/

namespace SqlText.Log

/-! ## Handlers -/

/-- The file that a target is, if it is one. -/
def Target.file? : Target → Option Path
  | .console _ => none
  | .file path => some path

/-- **What handlers write of an entry at a place**, which is a file or else the console: the line of
each that writes there and takes the entry's level. -/
def copies (handlers : List Handler) (place : Option Path) (e : Spoken) : List String :=
  (handlers.filter fun h => h.target.file? = place ∧ h.level ≤ e.level).map fun h =>
    h.target.line e ++ "\n"

/-- The only handler of a place writes an entry there, if it takes its level. -/
theorem copies_of_single {handlers : List Handler} {place : Option Path} {h : Handler}
    (hplace : (handlers.filter fun h => h.target.file? = place) = [h]) (e : Spoken) :
    copies handlers place e = if h.level ≤ e.level then [h.target.line e ++ "\n"] else [] := by
  have hfilter : (handlers.filter fun h => h.target.file? = place ∧ h.level ≤ e.level)
      = [h].filter fun h => h.level ≤ e.level := by
    rw [← hplace, List.filter_filter]
    exact congrArg (List.filter · handlers) (funext fun h => by simp [and_comm])
  rw [copies, hfilter]
  by_cases hlevel : h.level ≤ e.level <;> simp [hlevel]

/-- The files after the record of an entry was handed to handlers. -/
def FileTree.keep (t : FileTree) (e : Spoken) : List Handler → FileTree
  | [] => t
  | h :: rest =>
    match h.target.file? with
    | some p =>
      if h.level ≤ e.level then (t.append p (h.target.line e ++ "\n")).keep e rest
      else t.keep e rest
    | none => t.keep e rest

theorem Node.add_add (s t : String) (n : Node) : (n.add s).add t = n.add (s ++ t) := by
  cases n <;> simp [Node.add, String.append_assoc]

theorem Node.add_empty : Node.add "" = id := by
  funext n
  cases n <;> simp [Node.add]

/-- **What handlers keep of an entry** is at the end of their files. -/
theorem node?_keep (t : FileTree) (e : Spoken) (handlers : List Handler) (q : Path) :
    (t.keep e handlers).node? q
      = (t.node? q).map (Node.add (String.join (copies handlers (some q) e))) := by
  induction handlers generalizing t with
  | nil => simp [FileTree.keep, copies, Node.add_empty]
  | cons h rest ih =>
    unfold FileTree.keep
    cases hfile : h.target.file? with
    | none => simp [ih, copies, hfile]
    | some p =>
      by_cases hlevel : h.level ≤ e.level
      · simp only [if_pos hlevel, ih, FileTree.node?_append]
        by_cases hq : q = p
        · simp [copies, hfile, hlevel, hq, Function.comp_def, Node.add_add, String.join_cons]
        · simp [copies, hfile, hq, Ne.symm hq]
      · simp [ih, copies, hlevel]

/-- **A record handed to handlers** is written by each that takes its level, whatever is before it.
The record is the same for all of them, but for what changes nothing. -/
theorem handOut_eq {r : Record} {e : Spoken} (hr : r.IsOf e) (files : FileTree)
    (handlers : List Handler) :
    State.handOut e.level files r handlers = (copies handlers none e, files.keep e handlers) := by
  induction handlers generalizing r files with
  | nil => rfl
  | cons h rest ih =>
    obtain ⟨target, level⟩ := h
    obtain ⟨r', hformat, hr'⟩ := format_target hr target
    unfold State.handOut
    by_cases hlevel : level ≤ e.level
    · rw [if_pos hlevel]
      cases target <;> simp [hformat, ih hr', copies, FileTree.keep, Target.file?, hlevel]
    · rw [if_neg hlevel, ih hr]
      cases target <;> simp [copies, FileTree.keep, Target.file?, hlevel]

/-! ## Outfits -/

/-- The handlers that a setup puts in place: the console before the file. -/
def outfit (console : Option Bool) (path : Option Path) (level : Level) : List Handler :=
  (console.map fun colored => ⟨.console colored, level⟩).toList
    ++ (path.map fun p => ⟨.file p, level⟩).toList

/-- What a file gets of an entry. -/
def fileLine (e : Spoken) : String := lineOf e.time e.channel e.levelName e.message ++ "\n"

/-- What a console gets of some entries, if there is one. -/
def consoleLines (console : Option Bool) (es : List Spoken) : List String :=
  match console with
  | none => []
  | some colored => es.map fun e => (Target.console colored).line e ++ "\n"

/-- The files after some entries were written to the log file, if there is one. -/
def FileTree.log (t : FileTree) (path : Option Path) (es : List Spoken) : FileTree :=
  match path with
  | none => t
  | some p => es.foldl (fun t e => t.append p (fileLine e)) t

variable {console : Option Bool} {path : Option Path} {level : Level}

@[simp] theorem consoleLines_nil : consoleLines console [] = [] := by
  cases console <;> rfl

theorem consoleLines_append (es fs : List Spoken) :
    consoleLines console (es ++ fs) = consoleLines console es ++ consoleLines console fs := by
  cases console <;> simp [consoleLines]

@[simp] theorem log_nil (t : FileTree) : t.log path [] = t := by
  cases path <;> rfl

theorem log_append (t : FileTree) (es fs : List Spoken) :
    t.log path (es ++ fs) = (t.log path es).log path fs := by
  cases path <;> simp [FileTree.log]

/-- **What entries add to the tree of files**: their lines, in order, at the end of the log file. -/
theorem node?_log (t : FileTree) (es : List Spoken) (q : Path) :
    (t.log path es).node? q
      = if some q = path then (t.node? q).map (Node.add (String.join (es.map fileLine)))
        else t.node? q := by
  cases path with
  | none => simp [FileTree.log]
  | some p =>
    induction es generalizing t with
    | nil => simp [FileTree.log, Node.add_empty]
    | cons e rest ih =>
      rw [show t.log (some p) (e :: rest) = (t.append p (fileLine e)).log (some p) rest from rfl,
        ih, FileTree.node?_append]
      by_cases hq : q = p
      · simp [hq, Function.comp_def, Node.add_add, String.join_cons]
      · simp [hq]

/-- **A record handed to an outfit** is written by both handlers or by none. -/
theorem handOut_outfit {r : Record} {e : Spoken} (hr : r.IsOf e) (files : FileTree) :
    State.handOut e.level files r (outfit console path level)
      = if level ≤ e.level then (consoleLines console [e], files.log path [e])
        else ([], files) := by
  rw [handOut_eq hr]
  by_cases hlevel : level ≤ e.level <;> cases console <;> cases path <;>
    simp [outfit, copies, FileTree.keep, Target.file?, hlevel, consoleLines, FileTree.log, fileLine,
      Target.line]

/-- **Without a handler** the bare message of an entry is left over, if it is a warning or more
urgent. -/
theorem leftOver_eq {r : Record} {e : Spoken} (hr : r.IsOf e) (handlers : List Handler) :
    State.leftOver e.level r handlers
      = if handlers = [] ∧ bareLevel ≤ e.level then [e.message ++ "\n"] else [] := by
  rw [State.leftOver, hr.format_bareFormatter]
  by_cases hnone : handlers = [] <;> by_cases hlevel : bareLevel ≤ e.level <;> simp [hnone, hlevel]

/-! ## Entries that pass -/

/-- An entry under the name of its channel, which for the root channel is one of two. -/
def Spoken.named (e : Spoken) : Spoken :=
  { e with channel := if isRoot e.channel then rootName else e.channel }

theorem toEntry_mem_of_mem_spoken {occasions : Nat → Occasion} {es : List Entry} {e : Spoken}
    (h : e ∈ spoken occasions es) : e.toEntry ∈ es := by
  obtain ⟨i, hi, rfl⟩ := List.mem_mapIdx.1 h
  exact List.getElem_mem hi

@[simp] theorem level_named (e : Spoken) : e.named.level = e.level := rfl

namespace State

variable {s : State}

/-- The state after an entry was heard: its channel is known, and the decision on it is kept. -/
def hear (s : State) (e : Spoken) : State := (s.register e.named.channel).settle e.named.toEntry

/-- **The entries that pass**, of entries delivered in turn. -/
def passed (s : State) : List Spoken → List Spoken
  | [] => []
  | e :: rest =>
    (if (s.hear e).passes e.named.toEntry then [e.named] else []) ++ (s.deliver e).2.passed rest

/-- **The entries that are written down** by handlers of a level: those that pass and reach it. -/
def taken (s : State) (level : Level) (es : List Spoken) : List Spoken :=
  (s.passed es).filter fun e => decide (level ≤ e.level)

/-- **What goes to the stream of errors** of entries delivered in turn: nothing where there is a
handler, and else the bare messages of those that pass and are warnings or more urgent. -/
def strays (s : State) (es : List Spoken) : List String :=
  if s.handlers = [] then (s.taken bareLevel es).map fun e => e.message ++ "\n" else []

@[simp] theorem strays_nil (s : State) : s.strays [] = [] := ite_self []

@[simp] theorem handlers_register (s : State) (name : String) :
    (s.register name).handlers = s.handlers := by
  unfold register; split <;> rfl

@[simp] theorem files_register (s : State) (name : String) :
    (s.register name).files = s.files := by
  unfold register; split <;> rfl

@[simp] theorem unhandled_register (s : State) (name : String) :
    (s.register name).unhandled = s.unhandled := by
  unfold register; split <;> rfl

@[simp] theorem handlers_settle (s : State) (e : Entry) : (s.settle e).handlers = s.handlers := by
  unfold settle; split <;> rfl

@[simp] theorem files_settle (s : State) (e : Entry) : (s.settle e).files = s.files := by
  unfold settle; split <;> rfl

@[simp] theorem unhandled_settle (s : State) (e : Entry) :
    (s.settle e).unhandled = s.unhandled := by
  unfold settle; split <;> rfl

@[simp] theorem handlers_hear (s : State) (e : Spoken) : (s.hear e).handlers = s.handlers := by
  simp [hear]

@[simp] theorem files_hear (s : State) (e : Spoken) : (s.hear e).files = s.files := by
  simp [hear]

@[simp] theorem unhandled_hear (s : State) (e : Spoken) : (s.hear e).unhandled = s.unhandled := by
  simp [hear]

/-! ## Delivery -/

/-- An entry delivered, in terms of what is heard. -/
theorem deliver_eq (s : State) (e : Spoken) :
    s.deliver e
      = if (s.hear e).passes e.named.toEntry then
          let handed := handOut e.level s.files e.named.record s.handlers
          (handed.1, { s.hear e with
            files := handed.2
            unhandled := s.unhandled ++ leftOver e.level e.named.record s.handlers })
        else ([], s.hear e) := by
  rw [← files_hear s e, ← unhandled_hear s e, ← handlers_hear s e]
  rfl

/-- Delivering an entry leaves what hearing it leaves, but for the files and the stream of errors.
-/
theorem state_deliver (s : State) (e : Spoken) :
    (s.deliver e).2
      = { s.hear e with
          files := (s.deliver e).2.files
          unhandled := (s.deliver e).2.unhandled } := by
  rw [deliver_eq]
  split <;> rfl

@[simp] theorem handlers_deliver (s : State) (e : Spoken) :
    (s.deliver e).2.handlers = s.handlers := by
  rw [state_deliver]
  exact handlers_hear s e

/-- **What every entry keeps that is delivered, entries keep** that are delivered in turn. -/
theorem deliverAll_invariant {P : State → Prop} (hkeep : ∀ s e, P s → P (s.deliver e).2)
    (hs : P s) (es : List Spoken) : P (s.deliverAll es).2 := by
  induction es generalizing s with
  | nil => exact hs
  | cons e rest ih => exact ih (hkeep s e hs)

@[simp] theorem handlers_deliverAll (s : State) (es : List Spoken) :
    (s.deliverAll es).2.handlers = s.handlers :=
  deliverAll_invariant (fun t e ht => (handlers_deliver t e).trans ht) rfl es

/-- An entry that is written down is one of those delivered, under the name of its channel. -/
theorem mem_passed {e : Spoken} {es : List Spoken} (h : e ∈ s.passed es) :
    ∃ e' ∈ es, e = e'.named := by
  induction es generalizing s with
  | nil => cases h
  | cons e' rest ih =>
    rcases List.mem_append.1 h with h | h
    · split at h
      · exact ⟨e', List.mem_cons_self, List.mem_singleton.1 h⟩
      · cases h
    · obtain ⟨e'', hmem, rfl⟩ := ih h
      exact ⟨e'', List.mem_cons_of_mem _ hmem, rfl⟩

/-- What is written down of some entries is what is written down of the first, and then of the
others. -/
theorem taken_cons (s : State) (level : Level) (e : Spoken) (rest : List Spoken) :
    s.taken level (e :: rest) = s.taken level [e] ++ (s.deliver e).2.taken level rest := by
  simp only [taken, passed, List.append_nil, List.filter_append]

theorem taken_singleton (s : State) (level : Level) (e : Spoken) :
    s.taken level [e]
      = if (s.hear e).passes e.named.toEntry ∧ level ≤ e.level then [e.named] else [] := by
  simp only [taken, passed, List.append_nil]
  by_cases hpass : (s.hear e).passes e.named.toEntry = true <;>
    by_cases hlevel : level ≤ e.level <;> simp [hpass, hlevel]

/-- **An entry delivered** to an outfit is written down if it passes and reaches the outfit's
level. -/
theorem deliver_outfit (h : s.handlers = outfit console path level) (e : Spoken) :
    (s.deliver e).1 = consoleLines console (s.taken level [e])
      ∧ (s.deliver e).2.files = s.files.log path (s.taken level [e]) := by
  rw [deliver_eq, taken_singleton, h, ← level_named e, handOut_outfit (isOf_record _)]
  by_cases hpass : (s.hear e).passes e.named.toEntry = true
  · rw [if_pos hpass]
    by_cases hlevel : level ≤ e.level <;> simp [hpass, hlevel]
  · rw [if_neg hpass, if_neg (fun h => hpass h.1)]
    simp

/-- **Entries delivered in turn** to an outfit: the console gets the lines of those that are
written down, and the file gets them at its end. -/
theorem deliverAll_outfit (h : s.handlers = outfit console path level) (es : List Spoken) :
    (s.deliverAll es).1 = consoleLines console (s.taken level es)
      ∧ (s.deliverAll es).2.files = s.files.log path (s.taken level es) := by
  induction es generalizing s with
  | nil => simp [deliverAll, taken, passed]
  | cons e rest ih =>
    obtain ⟨hlines, hfiles⟩ := deliver_outfit h e
    obtain ⟨hmore, hrest⟩ := ih (s := (s.deliver e).2) (by rw [handlers_deliver, h])
    rw [taken_cons, consoleLines_append, log_append, ← hlines, ← hfiles, ← hmore, ← hrest]
    exact ⟨rfl, rfl⟩

/-- An entry delivered goes to the stream of errors if it is left over. -/
theorem unhandled_deliver (s : State) (e : Spoken) :
    (s.deliver e).2.unhandled = s.unhandled ++ s.strays [e] := by
  rw [deliver_eq, strays, taken_singleton, ← level_named e, leftOver_eq (isOf_record _)]
  by_cases hpass : (s.hear e).passes e.named.toEntry = true
  · rw [if_pos hpass]
    by_cases hnone : s.handlers = [] <;> by_cases hlevel : bareLevel ≤ e.level <;>
      simp [hpass, hnone, hlevel]
  · rw [if_neg hpass]
    simp [hpass]

/-- **What goes to the stream of errors** are the strays of all entries. -/
theorem unhandled_deliverAll (s : State) (es : List Spoken) :
    (s.deliverAll es).2.unhandled = s.unhandled ++ s.strays es := by
  induction es generalizing s with
  | nil => rw [strays_nil, List.append_nil, deliverAll]
  | cons e rest ih =>
    have hstrays : s.strays (e :: rest) = s.strays [e] ++ (s.deliver e).2.strays rest := by
      simp only [strays, handlers_deliver, taken_cons s bareLevel e rest, List.map_append]
      split <;> rfl
    rw [hstrays, ← List.append_assoc, ← unhandled_deliver]
    exact ih (s.deliver e).2

end State

end SqlText.Log
