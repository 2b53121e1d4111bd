import SqlText.Log.FileTree

/-!
# Directories and files are only added to

Three things are done to the tree of log files, and none of them takes anything away. Making
directories and opening a file put new directories and empty files behind the nodes that are there
(`FileTree.Extends`), also where they fail halfway, so **whatever stood at a path stands there as it
was**, and no text is new. Writing a line puts it at the end of one file and leaves every other path
as it was (`node?_append`).
-/

namespace SqlText.Log

/-- What stands at a path with a text added at its end. A directory has no text to add to. -/
def Node.add (s : String) : Node → Node
  | .directory => .directory
  | .file text => .file (text ++ s)

namespace FileTree

variable {t t' t'' : FileTree} {path : Path}

/-! ## New nodes -/

/-- One tree **extends** another one: it has the same nodes and perhaps some behind them, which are
directories and files without a text. -/
def Extends (t t' : FileTree) : Prop :=
  ∃ more, t'.nodes = t.nodes ++ more ∧ ∀ entry ∈ more, entry.2 = .directory ∨ entry.2 = .file ""

theorem Extends.refl (t : FileTree) : t.Extends t := ⟨[], (List.append_nil _).symm, by simp⟩

theorem Extends.trans (h : t.Extends t') (h' : t'.Extends t'') : t.Extends t'' := by
  obtain ⟨more, hmore, hnew⟩ := h
  obtain ⟨more', hmore', hnew'⟩ := h'
  refine ⟨more ++ more', by rw [hmore', hmore, List.append_assoc], fun entry hentry => ?_⟩
  rcases List.mem_append.1 hentry with hentry | hentry
  · exact hnew entry hentry
  · exact hnew' entry hentry

theorem extends_directory (t : FileTree) (path : Path) :
    t.Extends ⟨t.nodes ++ [(path, .directory)]⟩ :=
  ⟨[(path, .directory)], rfl, by simp⟩

theorem extends_file (t : FileTree) (path : Path) : t.Extends ⟨t.nodes ++ [(path, .file "")]⟩ :=
  ⟨[(path, .file "")], rfl, by simp⟩

/-- **What stands at a path stands there in every tree that extends the tree.** -/
theorem Extends.node? (h : t.Extends t') {n : Node} (hn : t.node? path = some n) :
    t'.node? path = some n := by
  obtain ⟨more, hmore, -⟩ := h
  unfold FileTree.node? at hn ⊢
  split
  · next hroot => rwa [if_pos hroot] at hn
  · next hroot =>
    rw [if_neg hroot] at hn
    rw [hmore, List.lookup_append, hn]
    rfl

/-- **A file of a tree that extends the tree** was there with its text, or nothing was there and it
has none. -/
theorem Extends.file (h : t.Extends t') {text : String}
    (hfile : t'.node? path = some (.file text)) :
    t.node? path = some (.file text) ∨ t.node? path = none ∧ text = "" := by
  obtain ⟨more, hmore, hnew⟩ := h
  unfold FileTree.node? at hfile ⊢
  split
  · next hroot =>
    rw [if_pos hroot] at hfile
    cases hfile
  · next hroot =>
    rw [if_neg hroot, hmore, List.lookup_append] at hfile
    cases hold : t.nodes.lookup path with
    | some n =>
      rw [hold] at hfile
      exact .inl hfile
    | none =>
      rw [hold] at hfile
      obtain ⟨before, after, rfl, -⟩ := List.lookup_eq_some_iff.1 hfile
      refine .inr ⟨rfl, ?_⟩
      rcases hnew (path, .file text) (by simp) with hdirectory | hempty
      · cases hdirectory
      · exact Node.file.inj hempty

/-! ## Making directories -/

/-- A directory is made behind all that was made before. -/
theorem extends_makeOne {names : Path} (h : t.makeOne names = .ok t') : t.Extends t' := by
  cases names with
  | nil => cases h
  | cons name parents =>
    simp only [makeOne] at h
    split at h
    · cases h
    · split at h
      · cases h
      · split at h
        · cases h
        · cases h
        · cases h
          exact extends_directory t _

theorem extends_makeOrKeep (t : FileTree) (names : Path) : t.Extends (t.makeOrKeep names).1 := by
  unfold makeOrKeep
  split
  · next hok => exact extends_makeOne hok
  · exact .refl t
  · split <;> exact .refl t

/-- Directories that are missing on the way are made behind all that was made before, **also where
the rest fails**. -/
theorem extends_makeAll (t : FileTree) (depth : Nat) (names : Path) :
    t.Extends (t.makeAll depth names).1 := by
  induction names generalizing depth with
  | nil => exact .refl t
  | cons name parents ih =>
    unfold makeAll
    split
    · exact .refl t
    · split
      · have hparents := ih (depth + 1)
        split
        · next hfail => rwa [hfail] at hparents
        · next hmade =>
          rw [hmade] at hparents
          exact hparents.trans (extends_makeOrKeep _ _)
      · exact extends_makeOrKeep t _

/-- **Making directories extends the tree**, made or not. -/
theorem extends_makeDirectories (t : FileTree) (path : Path) :
    t.Extends (t.makeDirectories path).1 := by
  unfold makeDirectories
  split
  · exact .refl t
  · exact extends_makeAll t 0 path.reverse

/-! ## Opening a file -/

/-- A name that is not too long is looked up where it stands. -/
theorem entry?_eq_ok_iff {here : Path} {name : String} {n : Option Node} :
    t.entry? here name = .ok n
      ↔ name.utf8ByteSize ≤ nameLimit ∧ t.node? (here ++ [name]) = n := by
  unfold entry?
  by_cases hfits : name.utf8ByteSize ≤ nameLimit
  · simp [hfits, Nat.not_lt.2 hfits]
  · simp [hfits, Nat.not_le.1 hfits]

/-- A node that is put where nothing was stands there. -/
theorem node?_of_new (h : t.node? path = none) (n : Node) :
    FileTree.node? ⟨t.nodes ++ [(path, n)]⟩ path = some n := by
  unfold FileTree.node? at h ⊢
  split at h
  · cases h
  · next hroot =>
    rw [if_neg hroot, List.lookup_append, h]
    simp

/-- A file can be **named** at a path: the path leads somewhere, up to a last name that is not too
long. -/
def Nameable (t : FileTree) (path : Path) : Prop :=
  refusal? path = none ∧ (∃ there, t.walk [] path.dropLast = .ok there)
    ∧ ∃ name, path.getLast? = some name ∧ name.utf8ByteSize ≤ nameLimit

/-- **What opening a file comes to**: it is there and stays as it is, or it is new and empty. -/
theorem openFile_eq_ok_iff :
    t.openFile path = .ok t'
      ↔ t.Nameable path
        ∧ ((∃ text, t.node? path = some (.file text)) ∧ t' = t
          ∨ t.node? path = none ∧ t' = ⟨t.nodes ++ [(path, .file "")]⟩) := by
  unfold openFile Nameable
  cases hrefusal : refusal? path with
  | some e => simp
  | none =>
    cases hwalk : t.walk [] path.dropLast with
    | error e => simp
    | ok there =>
      cases hname : path.getLast? with
      | none => simp
      | some name =>
        have hpath : path.dropLast ++ [name] = path := by
          obtain ⟨parents, rfl⟩ := List.getLast?_eq_some_iff.1 hname
          rw [List.dropLast_concat]
        unfold entry?
        simp only [hpath]
        by_cases hfits : name.utf8ByteSize ≤ nameLimit
        · rcases hnode : t.node? path with _ | _ | text <;>
            simp [hfits, Nat.not_lt.2 hfits, eq_comm]
        · simp [hfits, Nat.not_le.1 hfits]

theorem extends_openFile (h : t.openFile path = .ok t') : t.Extends t' := by
  rcases (openFile_eq_ok_iff.1 h).2 with ⟨-, rfl⟩ | ⟨-, rfl⟩
  · exact .refl t'
  · exact extends_file t path

theorem node?_openFile (h : t.openFile path = .ok t') :
    ∃ text, t'.node? path = some (.file text) := by
  rcases (openFile_eq_ok_iff.1 h).2 with ⟨hfile, rfl⟩ | ⟨hnone, rfl⟩
  · exact hfile
  · exact ⟨"", node?_of_new hnone _⟩

/-! ## Writing to a file -/

/-- What is looked up among nodes of which one had a text added. -/
theorem lookup_append_nodes (nodes : List (Path × Node)) (path q : Path) (s : String) :
    (FileTree.append ⟨nodes⟩ path s).nodes.lookup q
      = if q = path then (nodes.lookup q).map (Node.add s) else nodes.lookup q := by
  induction nodes with
  | nil => simp [append]
  | cons node rest ih =>
    obtain ⟨p, n⟩ := node
    have hcons : (FileTree.append ⟨(p, n) :: rest⟩ path s).nodes
        = (p, if p = path then n.add s else n) :: (FileTree.append ⟨rest⟩ path s).nodes := by
      cases n with
      | directory => simp [append, Node.add]
      | file text =>
        by_cases hp : p = path <;> simp [append, Node.add, hp]
    rw [hcons, List.lookup_cons, List.lookup_cons, ih]
    by_cases hq : q = p
    · subst hq
      by_cases hpath : q = path <;> simp [hpath]
    · have hother : (q == p) = false := by simpa using hq
      simp only [hother]

/-- **Writing to a file** adds the text at its end and leaves every other path as it is. -/
theorem node?_append (t : FileTree) (path q : Path) (s : String) :
    (t.append path s).node? q = if q = path then (t.node? q).map (Node.add s) else t.node? q := by
  unfold FileTree.node?
  split
  · simp [Node.add]
  · exact lookup_append_nodes t.nodes path q s

end FileTree

end SqlText.Log
