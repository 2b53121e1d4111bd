import SqlText.Template.Fill

/-!
# Fields of a template

`%(name)s` writes the text of a field as it is, and what stands between directives is written as it
is too. So pieces of these two kinds are filled in one by one, and nothing can be wrong with them as
long as the fields they name are there.

A field may stand in a template in other ways, cut, padded or as a number. Where it is only ever
**named plainly**, everything else that the template writes can be told without it: `fillAround`
writes a template with a gap in the place of each such field. The template with a text in the field
is the same with the text in the gaps (`fillFrom_eq_fillAround`), and there is one gap for each time
the field is named (`count_fillAround`).

One directive sees a field without naming it: a first directive that names none writes the record
as a whole. What it writes differs with the field, but **whether it can be written does not**, nor
what is said if it cannot (`fillFrom_object_end`). All other directives see the fields that they
name, and these are named in the template by their names between parentheses (`infix_of_names`).
-/

namespace SqlText.Template

variable {fields fields' : Fields} {pending : Option Value} {name : String} {ps : List Piece}

/-! ## Results made of results -/

theorem map_eq_ok_iff {α β : Type} {f : α → β} {x : Except Fault α} {b : β} :
    x.map f = .ok b ↔ ∃ a, x = .ok a ∧ f a = b := by
  cases x <;> simp [Except.map]

/-- Two results of which the same is made: neither goes through, or both do. -/
theorem map_eq_map {α β γ : Type} {f : α → γ} {g : β → γ} {x : Except Fault α} {y : Except Fault β}
    (h : x.map f = y.map g) :
    (∃ e, x = .error e ∧ y = .error e) ∨ ∃ a b, x = .ok a ∧ y = .ok b ∧ f a = g b := by
  cases x with
  | error e =>
    cases y with
    | error e' =>
      obtain rfl : e = e' := Except.error.inj h
      exact .inl ⟨e, rfl, rfl⟩
    | ok b => cases h
  | ok a =>
    cases y with
    | error e => cases h
    | ok b => exact .inr ⟨a, b, rfl, rfl, Except.ok.inj h⟩

theorem map_unit_map {α β : Type} (f : α → β) (x : Except Fault α) :
    (x.map f).map (fun _ => ()) = x.map fun _ => () := by
  cases x <;> rfl

/-! ## Text fields -/

/-- A directive that writes the text of a field as it is. -/
def textField (name : String) (position : Nat) : Directive :=
  { key := some name, flags := {}, width := none, precision := none, conversion := some 's',
    position := position }

/-- The pieces of a text without directives. -/
def literals (s : String) : List Piece := s.toList.map .literal

/-- Characters between directives stand for themselves. -/
theorem fillFrom_literals (s : String) (rest : List Piece) :
    fillFrom fields pending (literals s ++ rest)
      = (fillFrom fields pending rest).map (s.toList ++ ·) := by
  unfold literals
  cases hrest : fillFrom fields pending rest <;>
    induction s.toList with
    | nil => exact hrest
    | cons c cs ih => rw [List.map_cons, List.cons_append, fillFrom, ih]; rfl

/-- A text field writes the text of its value. -/
theorem fillFrom_textField {name : String} {v : Value} (h : fields.lookup name = some v)
    (position : Nat) (rest : List Piece) :
    fillFrom fields pending (.directive (textField name position) :: rest)
      = (fillFrom fields none rest).map (v.toText.toList ++ ·) := by
  have hroom : ¬ roomLimit < 0 := Nat.not_lt_zero _
  have hfill : fillDirective fields pending (textField name position)
      = .ok (v.toText.toList, none) := by
    simp [fillDirective, textField, pendingFor, h, sizeOf, write, writeText, padTo, Written.pad,
      hroom, bind, Except.bind]
  rw [fillFrom, hfill]

theorem fillFrom_nil : fillFrom fields pending [] = .ok [] := rfl

/-! ## Directives -/

/-- **A directive that only asks for the text of its value.** -/
def Directive.IsPlain (d : Directive) : Prop :=
  d.flags = {} ∧ d.width = none ∧ d.precision = none ∧ d.conversion = some 's'

instance : DecidablePred Directive.IsPlain :=
  fun _ => inferInstanceAs (Decidable (_ ∧ _ ∧ _ ∧ _))

theorem Directive.IsPlain.eq_textField {d : Directive} (h : d.IsPlain) (hkey : d.key = some name) :
    d = textField name d.position := by
  obtain ⟨key, flags, width, precision, conversion, position⟩ := d
  obtain ⟨rfl, rfl, rfl, rfl⟩ := h
  obtain rfl := hkey
  rfl

/-- The directive that a piece is, if it is one. -/
def Piece.directive? : Piece → Option Directive
  | .directive d => some d
  | _ => none

/-- The directives among pieces, in order. -/
def directives (ps : List Piece) : List Directive := ps.filterMap Piece.directive?

/-- Pieces **name a field plainly**, as often as they name it. -/
def NamePlainly (name : String) (ps : List Piece) : Prop :=
  ∀ d ∈ directives ps, d.key = some name → d.IsPlain

instance (name : String) : DecidablePred (NamePlainly name) :=
  fun ps => inferInstanceAs (Decidable (∀ d ∈ directives ps, _ → _))

/-- How often pieces name a field. -/
def timesNamed (name : String) (ps : List Piece) : Nat :=
  (directives ps).countP fun d => d.key = some name

/-- The first directive among pieces, if there is one, names a field. -/
def StartNamed (ps : List Piece) : Prop := ∀ d ∈ (directives ps).head?, d.key ≠ none

instance : DecidablePred StartNamed :=
  fun ps => inferInstanceAs (Decidable (∀ d ∈ (directives ps).head?, _))

/-- Pieces **name a field**, plainly or not. -/
def Names (name : String) (ps : List Piece) : Prop := ∃ d ∈ directives ps, d.key = some name

instance (name : String) : DecidablePred (Names name) :=
  fun ps => inferInstanceAs (Decidable (∃ d ∈ directives ps, _))

/-! ## Names in a template -/

/-- What is read as a name stands before the parenthesis that closes it. -/
theorem eq_append_of_readKey {depth : Nat} {cs key rest : List Char}
    (h : readKey depth cs = some (key, rest)) : cs = key ++ ')' :: rest := by
  induction cs generalizing depth key with
  | nil => cases h
  | cons c cs ih =>
    rw [readKey] at h
    split at h
    · next hclose =>
      obtain ⟨rfl, rfl⟩ := Prod.mk.inj (Option.some.inj h)
      rw [hclose.1, List.nil_append]
    · obtain ⟨⟨key', rest'⟩, hread, heq⟩ := Option.map_eq_some_iff.1 h
      obtain ⟨rfl, rfl⟩ := Prod.mk.inj heq
      rw [ih hread, List.cons_append]

theorem names_directive {d : Directive} (h : Names name (.directive d :: ps)) :
    d.key = some name ∨ Names name ps := by
  obtain ⟨d', hmem, hkey⟩ := h
  rcases List.mem_cons.1 hmem with rfl | hmem
  · exact .inl hkey
  · exact .inr ⟨d', hmem, hkey⟩

/-- **A field that is named** is named by its name between parentheses. -/
theorem infix_of_names {total skip : Nat} {cs : List Char}
    (h : Names name (piecesFrom total skip cs)) :
    '%' :: '(' :: (name.toList ++ [')']) <:+: cs := by
  fun_induction piecesFrom total skip cs with
  | case1 => obtain ⟨d, hmem, -⟩ := h; cases hmem
  | case2 c rest skip ih => exact List.infix_cons (ih h)
  | case3 rest ih => exact List.infix_cons (ih h)
  | case4 named hread => obtain ⟨d, hmem, -⟩ := h; cases hmem
  | case5 named key rest hread d after hdirective ih =>
    rcases names_directive h with hkey | h
    · have hd : d.key = some (String.ofList key) :=
        congrArg (fun read => read.1.key) hdirective.symm
      obtain rfl := Option.some.inj (hd.symm.trans hkey)
      rw [eq_append_of_readKey hread, String.toList_ofList]
      exact ⟨[], rest, by simp⟩
    · exact List.infix_cons (ih h)
  | case6 rest d after hdirective _ _ ih =>
    rcases names_directive h with hkey | h
    · cases hkey
    · cases hdirective
      exact List.infix_cons (ih h)
  | case7 c rest hc ih => exact List.infix_cons (ih h)

/-! ## Fields that are seen -/

/-- A directive sees no field but the one it names. -/
theorem fillDirective_congr {d : Directive}
    (h : ∀ key, d.key = some key → fields.lookup key = fields'.lookup key)
    (pending : Option Value) :
    fillDirective fields pending d = fillDirective fields' pending d := by
  have hpending : pendingFor fields pending d.key = pendingFor fields' pending d.key := by
    cases hkey : d.key with
    | none => rfl
    | some key => simp only [pendingFor, h key hkey]
  simp only [fillDirective, hpending]

/-- **Pieces see no field but those they name.** -/
theorem fillFrom_congr (h : ∀ name, Names name ps → fields.lookup name = fields'.lookup name)
    (pending : Option Value) : fillFrom fields pending ps = fillFrom fields' pending ps := by
  induction ps generalizing pending with
  | nil => rfl
  | cons p rest ih =>
    cases p with
    | literal c => rw [fillFrom, fillFrom, ih h]
    | openKey => rfl
    | directive d =>
      have hfill := fillDirective_congr
        (fun name hkey => h name ⟨d, List.mem_cons_self, hkey⟩) pending
      have hrest := ih fun name ⟨d', hmem, hkey⟩ => h name ⟨d', List.mem_cons_of_mem _ hmem, hkey⟩
      rw [fillFrom, fillFrom, hfill]
      simp only [hrest]

theorem fillDirective_of_key {d : Directive} (hkey : d.key ≠ none)
    (pending pending' : Option Value) :
    fillDirective fields pending d = fillDirective fields pending' d := by
  obtain ⟨key, hkey⟩ := Option.ne_none_iff_exists'.1 hkey
  simp only [fillDirective, hkey, pendingFor]

/-- Where the first directive names a field, what is pending before it makes no difference. -/
theorem fillFrom_of_startNamed (h : StartNamed ps) (pending pending' : Option Value) :
    fillFrom fields pending ps = fillFrom fields pending' ps := by
  induction ps with
  | nil => rfl
  | cons p rest ih =>
    cases p with
    | literal c => rw [fillFrom, fillFrom, ih h]
    | openKey => rfl
    | directive d => rw [fillFrom, fillFrom, fillDirective_of_key (h d rfl) pending pending']

/-! ## Around a field -/

/-- What pieces write, with a gap in the place of a field. -/
def fillAround (fields : Fields) (name : String) (pending : Option Value) :
    List Piece → Except Fault (List (Option (List Char)))
  | [] => .ok []
  | .literal c :: rest => (fillAround fields name pending rest).map (some [c] :: ·)
  | .openKey :: _ => .error .openKey
  | .directive d :: rest =>
    if d.key = some name then (fillAround fields name none rest).map (none :: ·)
    else match fillDirective fields pending d with
      | .error e => .error e
      | .ok (cs, pending) => (fillAround fields name pending rest).map (some cs :: ·)

/-- What is written, with a text in the gaps. -/
def closeGaps (s : List Char) (spans : List (Option (List Char))) : List Char :=
  spans.flatMap fun span => span.getD s

/-- **A field that is named plainly** goes in as it is. -/
theorem fillFrom_eq_fillAround {s : String} (hs : fields.lookup name = some (.text s))
    (hplain : NamePlainly name ps) (pending : Option Value) :
    fillFrom fields pending ps
      = (fillAround fields name pending ps).map (closeGaps s.toList) := by
  induction ps generalizing pending with
  | nil => rfl
  | cons p rest ih =>
    cases p with
    | literal c =>
      rw [fillFrom, fillAround, ih hplain]
      cases fillAround fields name pending rest <;> rfl
    | openKey => rfl
    | directive d =>
      obtain ⟨hd, hrest⟩ := List.forall_mem_cons.1 hplain
      rw [fillAround]
      by_cases hkey : d.key = some name
      · rw [if_pos hkey, (hd hkey).eq_textField hkey, fillFrom_textField hs, ih hrest]
        cases fillAround fields name none rest <;> rfl
      · rw [if_neg hkey, fillFrom]
        cases fillDirective fields pending d with
        | error e => rfl
        | ok written =>
          show (fillFrom fields written.2 rest).map _
            = ((fillAround fields name written.2 rest).map _).map _
          rw [ih hrest]
          cases fillAround fields name written.2 rest <;> rfl

/-- **There is a gap for each time the field is named.** -/
theorem count_fillAround {spans : List (Option (List Char))}
    (h : fillAround fields name pending ps = .ok spans) :
    spans.count none = timesNamed name ps := by
  induction ps generalizing pending spans with
  | nil =>
    obtain rfl := Except.ok.inj h
    rfl
  | cons p rest ih =>
    cases p with
    | literal c =>
      obtain ⟨more, hrest, rfl⟩ := map_eq_ok_iff.1 h
      exact (List.count_cons_of_ne (Option.some_ne_none _)).trans (ih hrest)
    | openKey => cases h
    | directive d =>
      have hnamed : timesNamed name (.directive d :: rest)
          = timesNamed name rest + if d.key = some name then 1 else 0 := by
        simp [timesNamed, directives, Piece.directive?, List.countP_cons]
      rw [fillAround] at h
      by_cases hkey : d.key = some name
      · rw [if_pos hkey] at h
        obtain ⟨more, hrest, rfl⟩ := map_eq_ok_iff.1 h
        rw [hnamed, if_pos hkey, List.count_cons_self, ih hrest]
      · rw [if_neg hkey] at h
        rw [hnamed, if_neg hkey]
        split at h
        · cases h
        · obtain ⟨more, hrest, rfl⟩ := map_eq_ok_iff.1 h
          exact (List.count_cons_of_ne (Option.some_ne_none _)).trans (ih hrest)

/-- **What is written around a field** is the same in all records that differ in this field alone.
-/
theorem fillAround_congr (hfields : ∀ key ≠ name, fields.lookup key = fields'.lookup key)
    (pending : Option Value) (ps : List Piece) :
    fillAround fields name pending ps = fillAround fields' name pending ps := by
  induction ps generalizing pending with
  | nil => rfl
  | cons p rest ih =>
    cases p with
    | literal c => rw [fillAround, fillAround, ih]
    | openKey => rfl
    | directive d =>
      rw [fillAround, fillAround, ih]
      by_cases hkey : d.key = some name
      · rw [if_pos hkey, if_pos hkey]
      · have hother : ∀ key, d.key = some key → fields.lookup key = fields'.lookup key :=
          fun key hd => hfields key fun hname => hkey (hname ▸ hd)
        rw [if_neg hkey, if_neg hkey, fillDirective_congr hother]
        simp only [ih]

/-! ## The record as a whole -/

/-- A size is taken from no object. -/
theorem sizeOf_object (bounds : Bounds) (size : Option Size) :
    (∃ e, ∀ o, sizeOf bounds (some (.object o)) size = .error e)
      ∨ ∃ n, ∀ o, sizeOf bounds (some (.object o)) size = .ok (n, some (.object o)) := by
  match size with
  | none => exact .inr ⟨none, fun _ => rfl⟩
  | some .fromArgument => exact .inl ⟨.sizeNotWhole, fun _ => rfl⟩
  | some (.fixed n) =>
    by_cases hbig : bounds.limit < n
    · exact .inl ⟨bounds.tooBig, fun _ => if_pos hbig⟩
    · exact .inr ⟨some n, fun _ => if_neg hbig⟩

/-- **A letter writes all objects or none**, and of those that it writes none the same is said. -/
theorem write_object (c : Char) (position : Nat) (flags : Flags) (precision : Option Nat)
    (o o' : List (String × Value)) :
    (write c position flags precision (.object o)).map (fun _ => ())
      = (write c position flags precision (.object o')).map fun _ => () := by
  unfold write
  split <;> simp only [Except.map, writeNumber, writeInBase, writeReal, writeCharacter,
    Value.asInt?, Value.asText?, Value.typeName]

/-- **A directive that names no field** can be filled in with all records or with none, and what is
pending after it is the same. -/
theorem fillDirective_object {d : Directive} (hkey : d.key = none)
    (o o' : List (String × Value)) :
    (fillDirective fields (some (.object o)) d).map Prod.snd
      = (fillDirective fields' (some (.object o')) d).map Prod.snd := by
  simp only [fillDirective, hkey, pendingFor, bind, Except.bind]
  rcases sizeOf_object widthBounds d.width with ⟨e, hwidth⟩ | ⟨width, hwidth⟩
  · simp only [hwidth]
  rcases sizeOf_object precisionBounds d.precision with ⟨e, hprecision⟩ | ⟨precision, hprecision⟩
  · simp only [hwidth, hprecision]
  simp only [hwidth, hprecision]
  cases d.conversion with
  | none => rfl
  | some c =>
    simp only
    generalize (if width.getD 0 < 0 then { d.flags with left := true } else d.flags) = flags
    have hwrite := write_object c d.position flags (precision.map Int.toNat) o o'
    rcases map_eq_map hwrite with ⟨e, hw, hw'⟩ | ⟨w, w', hw, hw', -⟩
    · simp only [hw, hw']
    · simp only [hw, hw', padTo]
      by_cases hroom : roomLimit < (width.getD 0).natAbs
      · simp only [if_pos hroom]
      · simp only [if_neg hroom]
        rfl

/-- **Whether pieces can be filled in** hangs on no more than the fields they name: if it is the
same with two lists of fields whatever is pending, it is the same where the records as a whole are.
-/
theorem fillFrom_object_end
    (hsame : ∀ pending rest, directives rest ⊆ directives ps →
      (fillFrom fields pending rest).map (fun _ => ())
        = (fillFrom fields' pending rest).map fun _ => ())
    (o o' : List (String × Value)) :
    (fillFrom fields (some (.object o)) ps).map (fun _ => ())
      = (fillFrom fields' (some (.object o')) ps).map fun _ => () := by
  induction ps with
  | nil => rfl
  | cons p rest ih =>
    cases p with
    | literal c =>
      rw [fillFrom, fillFrom, map_unit_map, map_unit_map,
        ih fun pending rest h => hsame pending rest h]
    | openKey => rfl
    | directive d =>
      by_cases hkey : d.key = none
      · rw [fillFrom, fillFrom]
        have hpending : (fillDirective fields (some (.object o)) d).map Prod.snd
            = (fillDirective fields' (some (.object o')) d).map Prod.snd :=
          fillDirective_object hkey o o'
        rcases map_eq_map hpending with ⟨e, hd, hd'⟩ | ⟨⟨cs, pending⟩, ⟨cs', _⟩, hd, hd', rfl⟩
        · simp only [hd, hd']
        · simp only [hd, hd', map_unit_map]
          exact hsame pending rest (List.subset_cons_of_subset _ (List.Subset.refl _))
      · have hstart : StartNamed (.directive d :: rest) := by
          rintro _ ⟨⟩
          exact hkey
        rw [fillFrom_of_startNamed hstart _ (some (.object o'))]
        exact hsame _ _ (List.Subset.refl _)

/-- It is the same where two records agree in the fields that are named. -/
theorem fillFrom_same_end_of_names
    (h : ∀ name, Names name ps → fields.lookup name = fields'.lookup name)
    (o o' : List (String × Value)) :
    (fillFrom fields (some (.object o)) ps).map (fun _ => ())
      = (fillFrom fields' (some (.object o')) ps).map fun _ => () :=
  fillFrom_object_end (fun pending rest hrest => by
    rw [fillFrom_congr fun name ⟨d, hmem, hkey⟩ => h name ⟨d, hrest hmem, hkey⟩]) o o'

/-- It is the same where they differ only in a field that is named plainly. -/
theorem fillFrom_same_end {s s' : String} (hs : fields.lookup name = some (.text s))
    (hs' : fields'.lookup name = some (.text s'))
    (hfields : ∀ key ≠ name, fields.lookup key = fields'.lookup key) (hplain : NamePlainly name ps)
    (o o' : List (String × Value)) :
    (fillFrom fields (some (.object o)) ps).map (fun _ => ())
      = (fillFrom fields' (some (.object o')) ps).map fun _ => () := by
  refine fillFrom_object_end (fun pending rest hrest => ?_) o o'
  have hplain' : NamePlainly name rest := fun d hmem => hplain d (hrest hmem)
  rw [fillFrom_eq_fillAround hs hplain', fillFrom_eq_fillAround hs' hplain', map_unit_map,
    map_unit_map, fillAround_congr hfields]

/-- **Two records that differ in a field** which is named plainly are both written or neither is,
and one is written around the field as the other is, unless it is written as a whole. -/
theorem fillFrom_around {s s' : String} (hs : fields.lookup name = some (.text s))
    (hs' : fields'.lookup name = some (.text s'))
    (hfields : ∀ key ≠ name, fields.lookup key = fields'.lookup key) (hplain : NamePlainly name ps)
    (o o' : List (String × Value)) :
    (∃ e, fillFrom fields (some (.object o)) ps = .error e
        ∧ fillFrom fields' (some (.object o')) ps = .error e)
      ∨ ∃ cs cs', fillFrom fields (some (.object o)) ps = .ok cs
        ∧ fillFrom fields' (some (.object o')) ps = .ok cs'
        ∧ (StartNamed ps → ∃ spans, cs = closeGaps s.toList spans ∧ cs' = closeGaps s'.toList spans
          ∧ spans.count none = timesNamed name ps) := by
  rcases map_eq_map (fillFrom_same_end hs hs' hfields hplain o o') with
    ⟨e, hx, hy⟩ | ⟨cs, cs', hx, hy, -⟩
  · exact .inl ⟨e, hx, hy⟩
  · refine .inr ⟨cs, cs', hx, hy, fun hstart => ?_⟩
    rw [fillFrom_eq_fillAround hs hplain] at hx
    obtain ⟨spans, haround, rfl⟩ := map_eq_ok_iff.1 hx
    rw [fillFrom_of_startNamed hstart _ (some (.object o)), fillFrom_eq_fillAround hs' hplain,
      ← fillAround_congr hfields, haround] at hy
    obtain rfl := Except.ok.inj hy
    exact ⟨spans, rfl, rfl, count_fillAround haround⟩

/-- What a text with gaps ends with is told by what is in the gaps only as far as that is told by
its end. -/
theorem getLast?_closeGaps {xs ys : List Char} (p : Char → Bool)
    (h : xs.getLast?.map p = ys.getLast?.map p) (spans : List (Option (List Char))) :
    (closeGaps xs spans).getLast?.map p = (closeGaps ys spans).getLast?.map p := by
  induction spans with
  | nil => rfl
  | cons span rest ih =>
    have hcons : ∀ zs, closeGaps zs (span :: rest) = span.getD zs ++ closeGaps zs rest :=
      fun _ => List.flatMap_cons
    rw [hcons, hcons, List.getLast?_append, List.getLast?_append, Option.map_or, Option.map_or, ih]
    cases span with
    | none => exact congrArg _ h
    | some cs => rfl

/-- The literal of an object has those of its entries in it, the first ones before the others. -/
theorem literal_object_append {es more : List (String × Value)} (hes : es ≠ [])
    (hmore : more ≠ []) :
    (Value.object (es ++ more)).literal
      = "\x7b" ++ String.intercalate ", " (Value.entryLiterals es)
        ++ (", " ++ String.intercalate ", " (Value.entryLiterals more) ++ "\x7d") := by
  have hsplit : ∀ es : List (String × Value),
      Value.entryLiterals (es ++ more) = Value.entryLiterals es ++ Value.entryLiterals more := by
    intro es
    induction es with
    | nil => rfl
    | cons e rest ih => rw [List.cons_append, Value.entryLiterals, Value.entryLiterals, ih]; rfl
  have hne : ∀ es : List (String × Value), es ≠ [] → Value.entryLiterals es ≠ [] := by
    intro es hes
    obtain ⟨e, rest, rfl⟩ := List.exists_cons_of_ne_nil hes
    simp [Value.entryLiterals]
  rw [Value.literal, hsplit, String.intercalate_append_of_ne_nil (hne es hes) (hne more hmore)]
  simp only [String.append_assoc]

/-- An object with more entries has another literal. -/
theorem literal_object_ne {es more : List (String × Value)} (hes : es ≠ []) (hmore : more ≠ []) :
    (Value.object (es ++ more)).literal ≠ (Value.object es).literal := by
  intro heq
  have hlength := congrArg String.length heq
  have hcomma : (", " : String).length = 2 := rfl
  rw [literal_object_append hes hmore, Value.literal] at hlength
  simp only [String.length_append] at hlength
  omega

/-- A directive that writes the record as a whole, where it comes first, and may cut it. -/
def whole (cut : Option Nat) (position : Nat) : Directive :=
  { key := none, flags := {}, width := none, precision := cut.map .fixed, conversion := some 's',
    position := position }

/-- **The record as a whole** is written by its literal. -/
theorem fillFrom_whole {o : List (String × Value)} {cut : Option Nat}
    (hcut : ∀ p ∈ cut, p ≤ precisionBounds.limit) (position : Nat) (rest : List Piece) :
    fillFrom fields (some (.object o)) (.directive (whole cut position) :: rest)
      = (fillFrom fields none rest).map ((writeText cut (Value.object o).literal).body ++ ·) := by
  have hroom : ¬ roomLimit < 0 := Nat.not_lt_zero _
  have hfill : fillDirective fields (some (.object o)) (whole cut position)
      = .ok ((writeText cut (Value.object o).literal).body, none) := by
    cases cut with
    | none =>
      simp [fillDirective, whole, pendingFor, sizeOf, write, writeText, padTo, Written.pad, hroom,
        bind, Except.bind, Value.toText]
    | some p =>
      simp [fillDirective, whole, pendingFor, sizeOf, Nat.not_lt.2 (hcut p rfl), write, writeText,
        padTo, Written.pad, hroom, bind, Except.bind, Value.toText]
  rw [fillFrom, hfill]

end SqlText.Template
