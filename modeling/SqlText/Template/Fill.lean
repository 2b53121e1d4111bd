import SqlText.Template.Written

/-!
# Filling templates in

`fill` writes a template with the values of its fields, piece by piece; the first piece with which
something is wrong decides what is said (`Fault`).

A directive takes its value from the **pending argument**. Naming a field makes its value pending;
at the start the record as a whole is. Whatever takes the pending argument leaves none behind, so
a directive that names no field finds one only if it comes first, and one that takes its width
from the argument has nothing left to write.
-/

namespace SqlText.Template

/-- The fields of a record. -/
abbrev Fields : Type := List (String × Value)

/-- Puts a value into a field: in its place if the field is there, and else behind the others. -/
def Fields.put (name : String) (v : Value) : Fields → Fields
  | [] => [(name, v)]
  | (other, w) :: rest =>
    if other = name then (name, v) :: rest else (other, w) :: Fields.put name v rest

theorem lookup_put_self (name : String) (v : Value) (fields : Fields) :
    (fields.put name v).lookup name = some v := by
  induction fields with
  | nil => simp [Fields.put]
  | cons field rest ih =>
    obtain ⟨other, w⟩ := field
    by_cases hother : other = name
    · simp [Fields.put, hother]
    · simp [Fields.put, hother, List.lookup_cons, ih, beq_eq_false_iff_ne.2 (Ne.symm hother)]

/-- Every other field is left as it is. -/
theorem lookup_put_of_ne {key name : String} (h : key ≠ name) (v : Value) (fields : Fields) :
    (fields.put name v).lookup key = fields.lookup key := by
  induction fields with
  | nil => simp [Fields.put, List.lookup_cons, beq_eq_false_iff_ne.2 h]
  | cons field rest ih =>
    obtain ⟨other, w⟩ := field
    by_cases hother : other = name
    · simp [Fields.put, hother, List.lookup_cons, beq_eq_false_iff_ne.2 h]
    · simp [Fields.put, hother, List.lookup_cons, ih]

/-- The bounds of a size, and what is said of one beyond them. -/
structure Bounds where
  /-- The greatest size. -/
  limit : Nat
  /-- A size written in the template is greater. -/
  tooBig : Fault
  /-- A size given by an argument is greater, or as far below zero. -/
  overflow : Fault

/-- The bounds of widths. -/
def widthBounds : Bounds := ⟨9223372036854775807, .widthTooBig, .widthOverflow⟩

/-- The bounds of precisions. -/
def precisionBounds : Bounds := ⟨2147483647, .precisionTooBig, .precisionOverflow⟩

/-- A width or precision and the argument still pending after it. An asterisk takes the pending
argument, which must be a whole number. -/
def sizeOf (bounds : Bounds) (pending : Option Value) :
    Option Size → Except Fault (Option Int × Option Value)
  | none => .ok (none, pending)
  | some (.fixed n) => if bounds.limit < n then .error bounds.tooBig else .ok (some n, pending)
  | some .fromArgument =>
    match pending with
    | none => .error .missingArgument
    | some v =>
      match v.asInt? with
      | none => .error .sizeNotWhole
      | some n =>
        if (bounds.limit : Int) < n ∨ n < -(bounds.limit : Int) - 1 then .error bounds.overflow
        else .ok (some n, none)

/-- The argument pending for a directive: the value of the field it names, or what is pending
already. -/
def pendingFor (fields : Fields) (pending : Option Value) :
    Option String → Except Fault (Option Value)
  | none => .ok pending
  | some name =>
    match fields.lookup name with
    | some v => .ok (some v)
    | none => .error (.unknownField name)

/-- The greatest number of characters a directive has room to write. -/
def roomLimit : Nat := Nat.pow 2 32

/-- The text of a written value in a width. -/
def padTo (w : Written) (flags : Flags) (width : Nat) : Except Fault (List Char) :=
  if roomLimit < width then .error .noRoom else .ok (w.pad flags width)

/-- What a directive writes, and the argument pending after it. -/
def fillDirective (fields : Fields) (pending : Option Value) (d : Directive) :
    Except Fault (List Char × Option Value) := do
  let pending ← pendingFor fields pending d.key
  let (width, pending) ← sizeOf widthBounds pending d.width
  let (precision, pending) ← sizeOf precisionBounds pending d.precision
  match d.conversion with
  | none => .error .incomplete
  | some c =>
    match pending with
    | none => .error .missingArgument
    | some v =>
      let flags := if (width.getD 0) < 0 then { d.flags with left := true } else d.flags
      let w ← write c d.position flags (precision.map Int.toNat) v
      let cs ← padTo w flags (width.getD 0).natAbs
      .ok (cs, none)

/-- The text of the pieces, from the argument pending before them. -/
def fillFrom (fields : Fields) (pending : Option Value) :
    List Piece → Except Fault (List Char)
  | [] => .ok []
  | .literal c :: rest => (fillFrom fields pending rest).map (c :: ·)
  | .openKey :: _ => .error .openKey
  | .directive d :: rest =>
    match fillDirective fields pending d with
    | .error e => .error e
    | .ok (cs, pending) => (fillFrom fields pending rest).map (cs ++ ·)

/-- **The text of a template** with the values of the fields. -/
def fill (fields : Fields) (template : String) : Except Fault String :=
  (fillFrom fields (some (.object fields)) (pieces template)).map String.ofList

end SqlText.Template
