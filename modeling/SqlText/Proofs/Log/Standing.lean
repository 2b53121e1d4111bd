import SqlText.Proofs.Log.Files

/-!
# What stands is not made again

A path that leads to a directory leads to it in every tree that extends the tree
(`Extends.leadsToDirectory`). Where directories were made without a fault, their path leads to the
last of them, and **making a directory that a path leads to changes nothing**. So directories that
were made once, and a file that was opened once, are there: asked for again, in the same tree or in
one that extends it, they are granted and the tree stays as it is (`makeDirectories_again`,
`openFile_again`).
-/

namespace SqlText.Log.FileTree

variable {t t' t'' : FileTree} {here there path names : Path} {name : String}

/-! ## Walking -/

/-- A walk over two paths is a walk over the second from where the first leads. -/
theorem walk_append (t : FileTree) (here path rest : Path) :
    t.walk here (path ++ rest)
      = match t.walk here path with
        | .error e => .error e
        | .ok there => t.walk there rest := by
  fun_induction walk t here path with
  | case1 here => rfl
  | case2 here path ih => rw [List.cons_append, walk, ih]
  | case3 here name path hup e hentry => simp only [List.cons_append, walk, hentry]
  | case4 here name path hup hentry => simp only [List.cons_append, walk, hentry]
  | case5 here name path hup text hentry => simp only [List.cons_append, walk, hentry]
  | case6 here name path hup hentry ih => simp only [List.cons_append, walk, hentry, ih]

theorem Extends.entry? (h : t.Extends t') {n : Node} (hn : t.entry? here name = .ok (some n)) :
    t'.entry? here name = .ok (some n) := by
  obtain ⟨hfits, hnode⟩ := entry?_eq_ok_iff.1 hn
  exact entry?_eq_ok_iff.2 ⟨hfits, h.node? hnode⟩

/-- **A walk that goes through** goes through in every tree that extends the tree. -/
theorem Extends.walk (h : t.Extends t') (hwalk : t.walk here path = .ok there) :
    t'.walk here path = .ok there := by
  fun_induction FileTree.walk t here path with
  | case1 here => exact hwalk
  | case2 here path ih => exact ih hwalk
  | case3 here name path hup e hentry => cases hwalk
  | case4 here name path hup hentry => cases hwalk
  | case5 here name path hup text hentry => cases hwalk
  | case6 here name path hup hentry ih =>
    simp only [FileTree.walk, h.entry? hentry]
    exact ih hwalk

/-- A step of a walk goes up, or into a directory. -/
theorem walk_singleton (h : t.walk here [name] = .ok there) :
    name = ".." ∨ t.entry? here name = .ok (some .directory) := by
  by_cases hup : name = ".."
  · exact .inl hup
  · refine .inr ?_
    rw [walk] at h
    · split at h
      · cases h
      · cases h
      · cases h
      · next hentry => exact hentry
    · exact hup

/-! ## Directories that stand -/

theorem leadsToDirectory_iff :
    t.leadsToDirectory names = true ↔ ∃ there, t.walk [] names.reverse = .ok there := by
  unfold leadsToDirectory
  split
  · next there hwalk => exact iff_of_true rfl ⟨there, hwalk⟩
  · next e hwalk => simp [hwalk]

/-- **A path that leads to a directory** does so in every tree that extends the tree. -/
theorem Extends.leadsToDirectory (h : t.Extends t') (hleads : t.leadsToDirectory names = true) :
    t'.leadsToDirectory names = true := by
  obtain ⟨there, hwalk⟩ := leadsToDirectory_iff.1 hleads
  exact leadsToDirectory_iff.2 ⟨there, h.walk hwalk⟩

/-- **A directory that was made** is led to. -/
theorem leadsToDirectory_of_makeOne (h : t.makeOne names = .ok t') :
    t'.leadsToDirectory names = true := by
  have hextends := extends_makeOne h
  cases names with
  | nil => cases h
  | cons name parents =>
    simp only [makeOne] at h
    split at h
    · cases h
    · next here hparents =>
      split at h
      · cases h
      · next hup =>
        split at h
        · cases h
        · cases h
        · next hentry =>
          obtain ⟨hfits, hnone⟩ := entry?_eq_ok_iff.1 hentry
          obtain rfl := Except.ok.inj h
          have hnew := entry?_eq_ok_iff.2 ⟨hfits, node?_of_new hnone .directory⟩
          refine leadsToDirectory_iff.2 ⟨here ++ [name], ?_⟩
          rw [List.reverse_cons, walk_append, hextends.walk hparents]
          simp only [walk, hnew]

/-- A directory that stands cannot be made. -/
theorem makeOne_of_leadsToDirectory (h : t.leadsToDirectory names = true) :
    t.makeOne names = .error .occupied := by
  cases names with
  | nil => rfl
  | cons name parents =>
    obtain ⟨there, hwalk⟩ := leadsToDirectory_iff.1 h
    rw [List.reverse_cons, walk_append] at hwalk
    split at hwalk
    · cases hwalk
    · next here hparents =>
      simp only [makeOne, hparents]
      rcases walk_singleton hwalk with hup | hentry
      · rw [if_pos hup]
      · rw [hentry, ite_self]

/-- **A directory that stands is kept.** -/
theorem makeOrKeep_of_leadsToDirectory (h : t.leadsToDirectory names = true) :
    t.makeOrKeep names = (t, .ok ()) := by
  rw [makeOrKeep, makeOne_of_leadsToDirectory h]
  simp only [h, if_true]

/-- What was made or kept is a directory that stands. -/
theorem leadsToDirectory_of_makeOrKeep (h : t.makeOrKeep names = (t', .ok ())) :
    t'.leadsToDirectory names = true := by
  unfold makeOrKeep at h
  split at h
  · next made hmade =>
    obtain rfl := (Prod.mk.inj h).1
    exact leadsToDirectory_of_makeOne hmade
  · cases h
  · split at h
    · next hleads =>
      obtain rfl := (Prod.mk.inj h).1
      exact hleads
    · cases h

/-- So is what was made with the directories missing on the way. -/
theorem leadsToDirectory_of_makeAll {depth : Nat} (h : t.makeAll depth names = (t', .ok ())) :
    t'.leadsToDirectory names = true := by
  cases names with
  | nil => rfl
  | cons name parents =>
    unfold makeAll at h
    split at h
    · cases h
    · split at h
      · split at h
        · cases h
        · exact leadsToDirectory_of_makeOrKeep h
      · exact leadsToDirectory_of_makeOrKeep h

theorem makeAll_of_leadsToDirectory {depth : Nat} (hdepth : depth < depthLimit)
    (h : t.leadsToDirectory names = true) : t.makeAll depth names = (t, .ok ()) := by
  cases names with
  | nil => rfl
  | cons name parents =>
    rw [makeAll, if_neg (Nat.not_le.2 hdepth), makeOrKeep_of_leadsToDirectory h]

/-- **Directories that were made** are not made again, in no tree that extends the one they were
made in. -/
theorem makeDirectories_again (h : t.makeDirectories path = (t', .ok ()))
    (hextends : t'.Extends t'') : t''.makeDirectories path = (t'', .ok ()) := by
  unfold makeDirectories at h ⊢
  cases hrefusal : refusal? path with
  | some e =>
    rw [hrefusal] at h
    cases h
  | none =>
    rw [hrefusal] at h
    exact makeAll_of_leadsToDirectory (by decide)
      (hextends.leadsToDirectory (leadsToDirectory_of_makeAll h))

/-! ## Files that stand -/

theorem Extends.nameable (h : t.Extends t') (hpath : t.Nameable path) : t'.Nameable path := by
  obtain ⟨hrefusal, ⟨there, hwalk⟩, hname⟩ := hpath
  exact ⟨hrefusal, ⟨there, h.walk hwalk⟩, hname⟩

/-- **A file that was opened** is not made again. -/
theorem openFile_again (h : t.openFile path = .ok t') : t'.openFile path = .ok t' :=
  openFile_eq_ok_iff.2 ⟨(extends_openFile h).nameable (openFile_eq_ok_iff.1 h).1,
    .inl ⟨node?_openFile h, rfl⟩⟩

end SqlText.Log.FileTree
