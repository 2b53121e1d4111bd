import SqlText.Log.Formatter
import SqlText.Proofs.Template.Fields

/-!
# Formatters at one record

Formatters are run over a record one after another, and the record is one for all of them. What they
leave on it is told by `Record.Leaves`: the mark of a colored formatter, the message and the time in
fields of their own, and the report of an error. The name of the level they put back.

Little of that is seen by the next one. The message and the time it puts on the record itself
before it looks for them, and so does a colored formatter with the mark. So **a formatter gives
what it would give on a copy of the record as it was at first**, with the mark of the level on it
if the formatter is plain and a colored one was run before it (`formatAll_undisturbed`). There are
two ways to see more. A first directive that names no field writes the record as a whole, with all
that was left on it, and a template may name the report of an error, which the first formatter that
gets as far as that makes. A name of a level that cannot be looked up keeps a colored formatter
from leaving anything (`formatters_leave_traces`).

The sign and the color of a level are looked up apart, in two tables. A name that is in neither is
written as it is, behind an empty sign, just as a plain formatter writes it. The tables agree on the
five names of levels, but the table of colors has one name more: that of the color that ends the
others, and a level of this name is written in it (`colored_custom`, `reset_is_colored`).
-/

namespace SqlText.Log

open Template

variable {r r' x y : Record} {template : Value} {isMarked : Bool} {f : Formatter}

/-! ## Fields of a record -/

theorem lookup_fields (r : Record) (key : String) :
    r.fields.lookup key = (r.ownFields.lookup key).or (r.added.lookup key) :=
  List.lookup_append

/-- The message is a field of every record that is written. -/
theorem lookup_ready_message (r : Record) (t message : String) :
    (r.ready t message).fields.lookup "message" = some (.text message) := by
  rw [lookup_fields]
  show (r.ready t message).added.lookup "message" = _
  unfold Record.ready
  split
  · exact (lookup_put_of_ne (by decide) _ _).trans (lookup_put_self _ _ _)
  · exact lookup_put_self _ _ _

/-- So is the time if the template has it in it. -/
theorem lookup_ready_time {t : String} (h : namesTime t.toList = true) (r : Record)
    (message : String) :
    (r.ready t message).fields.lookup "asctime" = some (.text (timeText r.time)) := by
  rw [lookup_fields]
  show (r.ready t message).added.lookup "asctime" = _
  unfold Record.ready
  rw [if_pos h]
  exact lookup_put_self _ _ _

/-- **What the fields of the message and of the time leave as it is** is kept by a record that is made
ready. -/
theorem ready_invariant {P : Record → Prop}
    (hput : ∀ r key v, key = "message" ∨ key = "asctime" → P r → P (r.put key v)) (h : P r)
    (t message : String) : P (r.ready t message) := by
  have hmessage := hput r "message" (.text message) (.inl rfl) h
  unfold Record.ready
  split
  · exact hput _ "asctime" _ (.inr rfl) hmessage
  · exact hmessage

theorem ownFields_ready (r : Record) (t message : String) :
    (r.ready t message).ownFields = r.ownFields :=
  ready_invariant (P := fun x => x.ownFields = r.ownFields) (fun _ _ _ _ h => h) rfl t message

theorem levelName_ready (r : Record) (t message : String) :
    (r.ready t message).levelName = r.levelName :=
  ready_invariant (P := fun x => x.levelName = r.levelName) (fun _ _ _ _ h => h) rfl t message

theorem ready_levelName (r : Record) (v : Value) (t message : String) :
    ({ r with levelName := v } : Record).ready t message
      = { r.ready t message with levelName := v } := by
  unfold Record.ready
  split <;> rfl

/-- Every other field is what it was. -/
theorem lookup_ready_of_ne {key : String} (hmessage : key ≠ "message") (htime : key ≠ "asctime")
    (r : Record) (t message : String) :
    (r.ready t message).fields.lookup key = r.fields.lookup key := by
  have hadded : (r.ready t message).added.lookup key = r.added.lookup key := by
    refine ready_invariant (P := fun x => x.added.lookup key = r.added.lookup key)
      (fun x name v hname hx => ?_) rfl t message
    rw [← hx]
    exact lookup_put_of_ne (by rcases hname with rfl | rfl <;> assumption) v _
  rw [lookup_fields, lookup_fields, ownFields_ready, hadded]

theorem namesTime_iff (cs : List Char) : namesTime cs = true ↔ "%(asctime)".toList <:+: cs := by
  induction cs with
  | nil => decide
  | cons c rest ih =>
    rw [namesTime, Bool.or_eq_true, ih, List.isPrefixOf_iff_prefix, List.infix_cons_iff]

/-- **A template that names the time** has it in it. -/
theorem namesTime_of_names {t : String} (h : Names "asctime" (pieces t)) :
    namesTime t.toList = true :=
  (namesTime_iff _).2 (infix_of_names h)

/-! ## Writing a record -/

theorem write_of_unsaid {reason : String} (h : r.said = .error reason) (t : String) :
    (r.write t).1 = .error (.unsaid reason) := by
  rw [Record.write, h]

theorem write_of_said {message : String} (h : r.said = .ok message) (t : String) :
    (r.write t).1
      = ((fill (r.ready t message).fields t).mapError .fault).map (r.ready t message).finish := by
  rw [Record.write, h]
  dsimp only
  cases fill (r.ready t message).fields t <;> rfl

/-! ## Bare records -/

/-- **A bare record** has nothing to be written behind its template. -/
structure Record.Bare (r : Record) (message : String) : Prop where
  /-- The arguments of the message fit. -/
  said : r.said = .ok message
  /-- There is no report to be made. -/
  owes : r.owesReport = false
  /-- None was made. -/
  text : r.errorText.getD "" = ""
  /-- There are no calls. -/
  stack : r.stack.getD "" = ""

theorem addLines_of_empty {more : Option String} (h : more.getD "" = "") (s : String) :
    addLines s more = s :=
  if_pos h

namespace Record.Bare

theorem reported {message : String} (h : r.Bare message) : r.reported = r :=
  if_neg (Bool.eq_false_iff.1 h.owes)

theorem put {message : String} (h : r.Bare message) (name : String) (v : Value) :
    (r.put name v).Bare message :=
  ⟨h.said, h.owes, h.text, h.stack⟩

theorem ready {message : String} (h : r.Bare message) (t : String) :
    (r.ready t message).Bare message :=
  ready_invariant (P := fun x => x.Bare message) (fun _ key v _ hx => hx.put key v) h t message

/-- **What comes of writing a bare record** is what comes of its template. -/
theorem write {message : String} (h : r.Bare message) (t : String) :
    r.write t
      = ((fill (r.ready t message).fields t).mapError .fault, r.ready t message) := by
  have hready := h.ready t
  unfold Record.write
  rw [h.said]
  dsimp only
  cases fill (r.ready t message).fields t with
  | error e => rfl
  | ok s =>
    dsimp only
    rw [Record.finish, hready.reported, addLines_of_empty hready.text,
      addLines_of_empty hready.stack]
    rfl

end Record.Bare

/-! ## What formatters leave -/

/-- **A record is another one as formatters leave it**, some of which marked it or none. The name
of the level is not told here, since it changes on the way. -/
structure Record.Leaves (r r' : Record) (isMarked : Bool) : Prop where
  /-- All the rest is as it was. -/
  rest : r' = { r with levelName := r'.levelName, errorText := r'.errorText, added := r'.added }
  /-- The mark is that of the level. -/
  mark : r'.added.lookup "emoji"
    = if isMarked then some (.text (signOf r.levelName)) else r.added.lookup "emoji"
  /-- Of the other added fields only those of the message and of the time may be new. -/
  others : ∀ key, key ≠ "emoji" → key ≠ "message" → key ≠ "asctime" →
    r'.added.lookup key = r.added.lookup key
  /-- A report is made if it was owed. -/
  report : r'.errorText = r.errorText ∨ r.owesReport = true ∧ r'.errorText = some r.report

namespace Record.Leaves

theorem refl (r : Record) : r.Leaves r false := ⟨rfl, rfl, fun _ _ _ _ => rfl, .inl rfl⟩

theorem levelName (h : r.Leaves r' isMarked) (v : Value) :
    r.Leaves { r' with levelName := v } isMarked :=
  ⟨by rw [h.rest], h.mark, h.others, h.report⟩

theorem put (h : r.Leaves r' isMarked) {key : String} (hkey : key = "message" ∨ key = "asctime")
    (v : Value) : r.Leaves (r'.put key v) isMarked where
  rest := by rw [Record.put, h.rest]
  mark := by
    rw [← h.mark]
    exact lookup_put_of_ne (by rcases hkey with rfl | rfl <;> decide) v _
  others key' hmark hmessage htime := by
    rw [← h.others key' hmark hmessage htime]
    exact lookup_put_of_ne (by rcases hkey with rfl | rfl <;> assumption) v _
  report := h.report

theorem ready (h : r.Leaves r' isMarked) (t message : String) :
    r.Leaves (r'.ready t message) isMarked :=
  ready_invariant (P := fun x => r.Leaves x isMarked) (fun _ _ v hkey hx => hx.put hkey v) h t
    message

theorem owesReport (h : r.Leaves r' isMarked) (howes : r'.owesReport = true) :
    r.owesReport = true := by
  rcases h.report with htext | ⟨howed, -⟩
  · rw [Record.owesReport, h.rest] at howes
    rwa [Record.owesReport, ← htext]
  · exact howed

theorem reported (h : r.Leaves r' isMarked) : r.Leaves r'.reported isMarked := by
  unfold Record.reported
  split
  · next howes =>
    refine ⟨by rw [h.rest], h.mark, h.others, .inr ⟨h.owesReport howes, ?_⟩⟩
    rw [h.rest]
  · exact h

/-- **What is written of an error** is the same whenever it is written. -/
theorem errorText_reported (h : r.Leaves r' isMarked) :
    r'.reported.errorText = r.reported.errorText := by
  have hreport : r'.report = r.report := by rw [h.rest]
  have herror : r'.error = r.error := by rw [h.rest]
  unfold Record.reported
  rcases h.report with htext | ⟨howed, htext⟩
  · have howes : r'.owesReport = r.owesReport := by
      rw [Record.owesReport, Record.owesReport, herror, htext]
    rw [howes]
    split
    · rw [hreport]
    · exact htext
  · rw [if_pos howed]
    split
    · rw [hreport]
    · exact htext

/-- Writing the record leaves no more on it. -/
theorem write (h : r.Leaves r' isMarked) (t : String) : r.Leaves (r'.write t).2 isMarked := by
  unfold Record.write
  split
  · exact h
  · next message _ =>
    have hready := h.ready t message
    dsimp only
    split
    · exact hready
    · exact hready.reported

theorem marked (h : r.Leaves r' isMarked) (hname : r'.levelName = r.levelName) :
    r.Leaves r'.marked true where
  rest := by rw [Record.marked, Record.put, h.rest]
  mark := by
    rw [if_pos rfl, ← hname]
    exact lookup_put_self _ _ _
  others key hmark hmessage htime := by
    rw [← h.others key hmark hmessage htime]
    exact lookup_put_of_ne hmark _ _
  report := h.report

end Record.Leaves


/-! ## One formatter -/

/-- Whether a formatter, given by whether it is colored and by its template, **marks** the record:
it is colored, it can be made, and the name of the level can be looked up, as every text can. -/
def Record.marksWith (r : Record) (f : Bool × Value) : Bool :=
  f.1 && (Formatter.make true f.2).isOk && isName r.levelName

/-- A formatter that can be made is colored if that was asked for. -/
theorem colored_of_make {colored : Bool} (h : Formatter.make colored template = .ok f) :
    f.colored = colored := by
  unfold Formatter.make at h
  split at h
  · cases h
  · split at h <;> cases h
    rfl

theorem formatWith_of_refused {colored : Bool} {e : FormatRefusal}
    (h : Formatter.make colored template = .error e) (r : Record) :
    formatWith colored template r = (.error e, r) := by
  rw [formatWith, h]

theorem formatWith_of_made {colored : Bool} (h : Formatter.make colored template = .ok f)
    (r : Record) : formatWith colored template r = f.format r := by
  rw [formatWith, h]

theorem levelName_write (r : Record) (t : String) : (r.write t).2.levelName = r.levelName := by
  unfold Record.write
  split
  · rfl
  · next message _ =>
    dsimp only
    split
    · exact levelName_ready r t message
    · unfold Record.reported
      split <;> exact levelName_ready r t message

/-- **The name of the level is put back**, whatever comes of the template. -/
theorem levelName_format (f : Formatter) (r : Record) : (f.format r).2.levelName = r.levelName := by
  unfold Formatter.format
  split
  · split <;> rfl
  · exact levelName_write r f.template

/-- **What a formatter leaves**, it leaves whatever others have left before it. -/
theorem Record.Leaves.formatWith (h : r.Leaves r' isMarked) (hname : r'.levelName = r.levelName)
    (g : Bool × Value) :
    r.Leaves (formatWith g.1 g.2 r').2 (isMarked || r.marksWith g)
      ∧ (Log.formatWith g.1 g.2 r').2.levelName = r.levelName := by
  obtain ⟨colored, template⟩ := g
  cases hmake : Formatter.make colored template with
  | error e =>
    have hmarks : r.marksWith (colored, template) = false := by
      cases colored <;> simp [Record.marksWith, hmake, Except.isOk, Except.toBool]
    rw [formatWith_of_refused hmake, hmarks, Bool.or_false]
    exact ⟨h, hname⟩
  | ok f =>
    rw [formatWith_of_made hmake]
    refine ⟨?_, (levelName_format f r').trans hname⟩
    obtain rfl := colored_of_make hmake
    cases hcolored : f.colored with
    | false =>
      have hmarks : r.marksWith (false, template) = false := rfl
      rw [hmarks, Bool.or_false, Formatter.format, hcolored]
      exact h.write f.template
    | true =>
      rw [hcolored] at hmake
      have hmarks : r.marksWith (true, template) = isName r.levelName := by
        simp [Record.marksWith, hmake, Except.isOk, Except.toBool]
      rw [hmarks, Formatter.format, hcolored, if_pos rfl, hname]
      cases isName r.levelName with
      | false => rwa [Bool.or_false]
      | true => 
        rw [Bool.or_true]
        exact (((h.marked hname).levelName _).write f.template).levelName _

/-! ## The same result -/

/-- A formatter **asks for a report that is owed**: there is an error whose report was not made, and
the template names the report. -/
def Formatter.AsksOwed (f : Formatter) (r : Record) : Prop :=
  r.owesReport = true ∧ Names "exc_text" (pieces f.template)

/-- **Two results of a formatter agree**: each is refused where the other is, and for the same
reason, and if the first directive of the template names a field they are the same. -/
structure Formatter.Agree (f : Formatter) (result result' : Except FormatRefusal String) :
    Prop where
  /-- They are refused alike. -/
  refused : ∀ e, result = .error e ↔ result' = .error e
  /-- They are the same. -/
  same : StartNamed (pieces f.template) → result = result'

theorem Formatter.Agree.refl (f : Formatter) (result : Except FormatRefusal String) :
    f.Agree result result :=
  ⟨fun _ => Iff.rfl, fun _ => rfl⟩

/-- Two records that formatters left have the same fields of their own, but for a report. -/
theorem Record.Leaves.lookup_ownFields (hx : r.Leaves x isMarked) (hy : r.Leaves y isMarked)
    (hname : x.levelName = y.levelName) {key : String}
    (hreport : key = "exc_text" → x.errorText = y.errorText) :
    x.ownFields.lookup key = y.ownFields.lookup key := by
  have hx' : x.ownFields
      = ({ r with levelName := x.levelName, errorText := x.errorText } : Record).ownFields :=
    (congrArg Record.ownFields hx.rest).trans rfl
  have hy' : y.ownFields
      = ({ r with levelName := y.levelName, errorText := y.errorText } : Record).ownFields :=
    (congrArg Record.ownFields hy.rest).trans rfl
  rw [hx', hy', hname]
  by_cases hkey : key = "exc_text"
  · rw [hreport hkey]
  · have hother : (key == "exc_text") = false := by simpa using hkey
    simp only [Record.ownFields, List.lookup_cons, hother]

/-- **Where a template is filled in, the same fields are found** as far as it names them. -/
theorem Record.Leaves.lookup_ready (hx : r.Leaves x isMarked) (hy : r.Leaves y isMarked)
    (hname : x.levelName = y.levelName) (hasks : ¬ f.AsksOwed r) (message : String) {key : String}
    (hkey : Names key (pieces f.template)) :
    (x.ready f.template message).fields.lookup key
      = (y.ready f.template message).fields.lookup key := by
  by_cases hmessage : key = "message"
  · rw [hmessage, lookup_ready_message, lookup_ready_message]
  by_cases htime : key = "asctime"
  · have hneeded := namesTime_of_names (htime ▸ hkey)
    have hsame : x.time = y.time := by rw [hx.rest, hy.rest]
    rw [htime, lookup_ready_time hneeded, lookup_ready_time hneeded, hsame]
  have hx' := hx.ready f.template message
  have hy' := hy.ready f.template message
  have hreport : key = "exc_text"
      → (x.ready f.template message).errorText = (y.ready f.template message).errorText := by
    rintro rfl
    have howes : ¬ r.owesReport = true := fun howes => hasks ⟨howes, hkey⟩
    rw [hx'.report.resolve_right fun h => howes h.1, hy'.report.resolve_right fun h => howes h.1]
  have hadded : (x.ready f.template message).added.lookup key
      = (y.ready f.template message).added.lookup key := by
    by_cases hmark : key = "emoji"
    · rw [hmark, hx'.mark, hy'.mark]
    · rw [hx'.others key hmark hmessage htime, hy'.others key hmark hmessage htime]
  rw [lookup_fields, lookup_fields, hadded,
    hx'.lookup_ownFields hy' (by rw [levelName_ready, levelName_ready, hname]) hreport]

theorem Record.Leaves.finish_eq (hx : r.Leaves x isMarked) (hy : r.Leaves y isMarked) (s : String) :
    x.finish s = y.finish s := by
  have hstack : x.stack = y.stack := by rw [hx.rest, hy.rest]
  rw [Record.finish, Record.finish, hx.errorText_reported, hy.errorText_reported, hstack]

/-- **A record is written alike** whatever formatters have left on it. -/
theorem Record.Leaves.agree (hx : r.Leaves x isMarked) (hy : r.Leaves y isMarked)
    (hname : x.levelName = y.levelName) (hasks : ¬ f.AsksOwed r) :
    f.Agree (x.write f.template).1 (y.write f.template).1 := by
  have hsaid : x.said = y.said := by rw [hx.rest, hy.rest]
  unfold Record.write
  rw [hsaid]
  cases y.said with
  | error reason => exact .refl f _
  | ok message =>
    have hlookup : ∀ key, Names key (pieces f.template) → _ :=
      fun key => hx.lookup_ready hy hname hasks message
    have hfinish := (hx.ready f.template message).finish_eq (hy.ready f.template message)
    have hend := fillFrom_same_end_of_names hlookup (x.ready f.template message).fields
      (y.ready f.template message).fields
    dsimp only
    constructor
    · intro e
      unfold fill
      rcases map_eq_map hend with ⟨e', hfill, hfill'⟩ | ⟨cs, cs', hfill, hfill', -⟩
      · rw [hfill, hfill']
        exact Iff.rfl
      · rw [hfill, hfill']
        exact iff_of_false (by simp [Except.map]) (by simp [Except.map])
    · intro hstart
      have hfill : fill (x.ready f.template message).fields f.template
          = fill (y.ready f.template message).fields f.template := by
        unfold fill
        rw [fillFrom_congr hlookup, fillFrom_of_startNamed hstart]
      rw [hfill]
      cases fill (y.ready f.template message).fields f.template with
      | error e => rfl
      | ok s => exact congrArg Except.ok (hfinish s)

/-! ## Formatters one after another -/

/-- The record as some formatters leave it that are run over it in turn. -/
def Record.leftBy (r : Record) (fs : List (Bool × Value)) : Record :=
  fs.foldl (fun r f => (formatWith f.1 f.2 r).2) r

/-- **What a run of formatters leaves** is what each leaves, whatever was left before it. -/
theorem Record.Leaves.leftBy (h : r.Leaves r' isMarked) (hname : r'.levelName = r.levelName)
    (fs : List (Bool × Value)) :
    r.Leaves (r'.leftBy fs) (isMarked || fs.any r.marksWith)
      ∧ (r'.leftBy fs).levelName = r.levelName := by
  induction fs generalizing r' isMarked with
  | nil =>
    rw [List.any_nil, Bool.or_false]
    exact ⟨h, hname⟩
  | cons g rest ih =>
    obtain ⟨hg, hname'⟩ := h.formatWith hname g
    rw [List.any_cons, ← Bool.or_assoc]
    exact ih hg hname'

/-- **A run of formatters**, each on the record that those before it left. -/
theorem getElem?_formatAll (r : Record) (fs : List (Bool × Value)) (i : Nat) :
    (formatAll r fs)[i]?
      = fs[i]?.map fun f => formatWith f.1 f.2 (r.leftBy (fs.take i)) := by
  induction fs generalizing r i with
  | nil => rfl
  | cons f rest ih =>
    obtain ⟨colored, template⟩ := f
    rw [formatAll]
    cases i with
    | zero => rfl
    | succ i => exact ih _ i

theorem length_formatAll (r : Record) (fs : List (Bool × Value)) :
    (formatAll r fs).length = fs.length := by
  induction fs generalizing r with
  | nil => rfl
  | cons f rest ih => rw [formatAll, List.length_cons, ih, List.length_cons]

/-- The copy of a record that a formatter gives the same on: as it was at first, and with the mark
of the level for a plain formatter behind a colored one. -/
def Record.copyFor (r : Record) (colored isMarked : Bool) : Record :=
  if !colored && isMarked then r.marked else r

/-- **A formatter gives on a record that others have left what it gives on the copy.** -/
theorem Record.Leaves.agree_format (h : r.Leaves r' isMarked) (hname : r'.levelName = r.levelName)
    (hasks : ¬ f.AsksOwed r) :
    f.Agree (f.format r').1 (f.format (r.copyFor f.colored isMarked)).1 := by
  unfold Formatter.format
  cases hcolored : f.colored with
  | false =>
    cases isMarked with
    | false => exact h.agree (.refl r) hname hasks
    | true => exact h.agree ((refl r).marked rfl) hname hasks
  | true =>
    have hcopy : r.copyFor true isMarked = r := rfl
    rw [hcopy, if_pos rfl, if_pos rfl, hname]
    cases isName r.levelName with
    | false => exact .refl f _
    | true =>
      exact ((h.marked hname).levelName _).agree (((refl r).marked rfl).levelName _) rfl hasks

/-- **Formatters at one record do not disturb each other**, as far as they show what they name.
Behind each of them the name of the level is the one it was, and all else is as it was but for what
formatters leave. A formatter that cannot be made leaves nothing. Any other that does not ask for a
report that is owed agrees with itself on a copy of the record: a colored one, and a plain one
while the record was not marked, on the record as it was at first, and a plain one from then on, on
the record with the mark of its level. They are refused alike, and give the same text unless the
first directive of the template writes the record as a whole. A colored formatter that is made
marks the record, also where its template cannot be filled in, if the name of the level can be
looked up. -/
theorem formatAll_undisturbed (r : Record) (fs : List (Bool × Value)) :
    (formatAll r fs).length = fs.length
      ∧ ∀ before colored template behind, fs = before ++ (colored, template) :: behind →
        ∃ result r', (formatAll r fs)[before.length]? = some (result, r')
          ∧ r'.levelName = r.levelName
          ∧ r.Leaves r' (before.any r.marksWith || r.marksWith (colored, template))
          ∧ (∀ e, Formatter.make colored template = .error e →
              result = .error e ∧ r' = r.leftBy before)
          ∧ (∀ f, Formatter.make colored template = .ok f → ¬ f.AsksOwed r →
              (colored = true → f.Agree result (f.format r).1)
                ∧ (colored = false → before.any r.marksWith = false →
                  f.Agree result (f.format r).1)
                ∧ (colored = false → before.any r.marksWith = true →
                  f.Agree result (f.format r.marked).1))
          ∧ ∀ f, colored = true → Formatter.make true template = .ok f →
              isName r.levelName = true →
              r'.added.lookup "emoji" = some (.text (signOf r.levelName)) := by
  refine ⟨length_formatAll r fs, fun before colored template behind hfs => ?_⟩
  obtain ⟨hleft, hname⟩ := (Record.Leaves.refl r).leftBy rfl before
  rw [Bool.false_or] at hleft
  obtain ⟨hleft', hname'⟩ := hleft.formatWith hname (colored, template)
  have hrun := getElem?_formatAll r fs before.length
  rw [hfs, List.getElem?_append_right (Nat.le_refl _), Nat.sub_self, List.take_left] at hrun
  refine ⟨(formatWith colored template (r.leftBy before)).1,
    (formatWith colored template (r.leftBy before)).2, hfs ▸ hrun, hname', hleft',
    fun e hrefused => ?_, fun f hmade hasks => ?_, fun f hcolored hmade hlevel => ?_⟩
  · rw [formatWith_of_refused hrefused]
    exact ⟨rfl, rfl⟩
  · have hagree := hleft.agree_format hname hasks
    rw [colored_of_make hmade] at hagree
    rw [formatWith_of_made hmade]
    refine ⟨?_, ?_, ?_⟩
    · rintro rfl
      exact hagree
    · rintro rfl hnone
      rw [hnone] at hagree
      exact hagree
    · rintro rfl hmarked
      rw [hmarked] at hagree
      exact hagree
  · subst hcolored
    have hmarks : r.marksWith (true, template) = true := by
      simp [Record.marksWith, hmade, hlevel, Except.isOk, Except.toBool]
    rw [hleft'.mark, hmarks, Bool.or_true, if_pos rfl]

/-- The second colored formatter cannot fill its template in, and the plain one behind it shows the
mark all the same. -/
theorem formatAll_undisturbed_fault :
    let r : Record :=
      { channel := .text "db", level := .int 40, levelName := .text "ERROR", message := .text "odd",
        time := 0 }
    let before : List (Bool × Value) :=
      [(true, .text "odd"), (false, .text "%(asctime)s"), (true, .text "%(nope)s")]
    let sign : Formatter := ⟨false, "%(emoji)s"⟩
    Formatter.make false (.text "%(emoji)s") = .ok sign ∧ ¬ sign.AsksOwed r
      ∧ before.any r.marksWith = true
      ∧ ∃ r', (formatAll r (before ++ [(false, .text "%(emoji)s")]))[3]? = some (.ok "❌", r')
        ∧ r'.levelName = .text "ERROR" ∧ r'.added.lookup "emoji" = some (.text "❌") := by
  have hsign : ((⟨false, "%(emoji)s"⟩ : Formatter).format (Record.marked
      { channel := .text "db", level := .int 40, levelName := .text "ERROR", message := .text "odd",
        time := 0 })).1 = .ok "❌" := rfl
  have hstart : StartNamed (pieces "%(emoji)s") := by decide
  intro r before sign
  have hmade : Formatter.make false (.text "%(emoji)s") = .ok sign := rfl
  have hasks : ¬ sign.AsksOwed r := fun h => absurd h.1 (by decide)
  have hmarked : before.any r.marksWith = true := by decide
  obtain ⟨result, r', hrun, hlevel, hleaves, -, hagree, -⟩ :=
    (formatAll_undisturbed r (before ++ [(false, .text "%(emoji)s")])).2 before false
      (.text "%(emoji)s") [] rfl
  obtain rfl : result = .ok "❌" :=
    (((hagree sign hmade hasks).2.2 rfl hmarked).same hstart).trans hsign
  refine ⟨hmade, hasks, hmarked, r', hrun, hlevel, ?_⟩
  rw [hleaves.mark, hmarked]
  rfl

/-! ## Traces -/

/-- **A record written as a whole** is written by the literal of its fields. -/
theorem write_whole {message : String} (h : r.Bare message) :
    (r.write "%s|%(message)s").1
      = .ok ((Value.object (r.ready "%s|%(message)s" message).fields).literal
          ++ "|" ++ message) := by
  have hpieces : pieces "%s|%(message)s"
      = .directive (whole none 1) :: (literals "|" ++ [.directive (textField "message" 13)]) := by
    decide
  rw [h.write, fill, hpieces, fillFrom_whole (by simp), fillFrom_literals,
    fillFrom_textField (lookup_ready_message r _ message), fillFrom_nil]
  refine congrArg Except.ok (String.toList_inj.1 ?_)
  simp [writeText, List.append_assoc]

/-- The record as a whole shows the time that was added to it before. -/
theorem whole_behind_time {message : String} (h : r.Bare message) (hadded : r.added = []) :
    (formatAll r [(false, .text "%(asctime)s"), (false, .text "%s|%(message)s")])[1]?.map Prod.fst
      ≠ some (formatWith false (.text "%s|%(message)s") r).1 := by
  let timed := r.ready "%(asctime)s" message
  have htimed : (formatAll r [(false, .text "%(asctime)s"), (false, .text "%s|%(message)s")])[1]?
      = some (timed.write "%s|%(message)s") := by
    show some ((r.write "%(asctime)s").2.write "%s|%(message)s") = _
    rw [h.write]
  have hfields : (timed.ready "%s|%(message)s" message).fields
      = (r.ready "%s|%(message)s" message).fields ++ [("asctime", .text (timeText r.time))] := by
    have htime : namesTime "%(asctime)s".toList = true := by decide
    have hnone : ¬ namesTime "%s|%(message)s".toList = true := by decide
    simp only [timed, Record.fields, Record.ready, if_pos htime, if_neg hnone, Record.put, hadded,
      Fields.put, List.append_assoc]
    rfl
  have hplain : (formatWith false (.text "%s|%(message)s") r).1
      = (r.write "%s|%(message)s").1 := rfl
  rw [htimed, Option.map_some, write_whole (h.ready _), hfields, hplain, write_whole h]
  intro heq
  have htext := Except.ok.inj (Option.some.inj heq)
  rw [String.append_left_inj, String.append_left_inj] at htext
  exact literal_object_ne (List.cons_ne_nil _ _) (List.cons_ne_nil _ _) htext

/-- **Formatters leave traces.** The record as a whole shows the time that a formatter put on it,
and a template that names the report of an error shows whether one was made. A colored formatter
that cannot look the name of the level up leaves no mark. -/
theorem formatters_leave_traces :
    let r : Record :=
      { channel := .text "db", level := .int 20, levelName := .text "INFO", message := .text "odd",
        time := 1000000000 }
    let failed : Record :=
      { r with error := .list [.text "Fault", .text "odd"], report := "Fault: odd" }
    let listed : Record := { r with levelName := .list [.int 1] }
    let whole : Value := .text "%s|%(message)s"
    let report : Value := .text "%(exc_text)s"
    let sign : Value := .text "%(emoji)s|%(message)s"
    (formatAll r [(false, .text "%(asctime)s"), (false, whole)])[1]?.map Prod.fst
        ≠ some (formatWith false whole r).1
      ∧ (formatAll failed [(false, .text "%(message)s"), (false, report)])[1]?.map Prod.fst
        = some (.ok "Fault: odd\nFault: odd")
      ∧ (formatWith false report failed).1 = .ok "None\nFault: odd"
      ∧ (formatAll listed [(true, .text "%(message)s"), (false, sign)]).map Prod.fst
        = [.error (.notName "list"), .error (.fault (.unknownField "emoji"))]
      ∧ (formatWith false sign listed.marked).1 = .ok "|odd" := by
  dsimp only
  exact ⟨whole_behind_time ⟨rfl, rfl, rfl, rfl⟩ rfl, rfl, rfl, rfl, rfl⟩

/-! ## Levels without a color -/

theorem names_signs : signs.map Prod.fst = ["DEBUG", "INFO", "WARNING", "ERROR", "CRITICAL"] := rfl

theorem names_colors : colors.map Prod.fst = signs.map Prod.fst ++ ["RESET"] := rfl

theorem lookup_eq_none_of_not_mem {table : List (String × String)} {name : String}
    (h : name ∉ table.map Prod.fst) : table.lookup name = none := by
  refine List.lookup_eq_none_iff.2 fun row hrow => ?_
  have hne : name ≠ row.1 := fun heq => h (heq ▸ List.mem_map_of_mem hrow)
  simpa using hne

/-- A formatter that can be made when it is not to be colored can be made colored. -/
theorem make_colored (template : Value) :
    Formatter.make true template
      = (Formatter.make false template).map fun f => { f with colored := true } := by
  unfold Formatter.make
  split
  · rfl
  · split <;> rfl

/-- **A colored formatter** is a plain one on the record with its mark and its color. -/
theorem formatWith_colored {name : String} (h : r.levelName = .text name) (template : Value) :
    (formatWith true template r).1
      = (formatWith false template { r.marked with levelName := colorize (.text name) }).1 := by
  unfold formatWith
  rw [make_colored]
  cases hmake : Formatter.make false template with
  | error e => rfl
  | ok f =>
    have hplain : f.colored = false := colored_of_make hmake
    simp [Except.map, Formatter.format, hplain, h, isName]

/-- **Levels of other names are neither colored nor marked**, with one exception: a level that is
called by the name of the color that ends the others is written in that color. -/
theorem colored_custom {name : String} (hname : r.levelName = .text name)
    (hcustom : name ∉ ["DEBUG", "INFO", "WARNING", "ERROR", "CRITICAL"]) (template : Value) :
    (name ≠ "RESET" → (formatWith true template r).1
        = (formatWith false template (r.put "emoji" (.text ""))).1)
      ∧ (name = "RESET" → (formatWith true template r).1
        = (formatWith false template
            { r.put "emoji" (.text "") with levelName := .text "\x1b[0mRESET\x1b[0m" }).1) := by
  rw [← names_signs] at hcustom
  have hsign : r.marked = r.put "emoji" (.text "") := by
    simp [Record.marked, hname, signOf, Value.asText?, lookup_eq_none_of_not_mem hcustom]
  rw [formatWith_colored hname, hsign]
  constructor
  · intro hreset
    have hcolor : name ∉ colors.map Prod.fst := by
      rw [names_colors, List.mem_append, List.mem_singleton]
      exact not_or.2 ⟨hcustom, hreset⟩
    have hsame : colorize (.text name) = (r.put "emoji" (.text "")).levelName := by
      simp [colorize, Value.asText?, lookup_eq_none_of_not_mem hcolor, Record.put, hname]
    rw [hsame]
  · rintro rfl
    rfl

/-- A level that is called by a name of its own, spoken on at some line. -/
theorem colored_custom_notice :
    let r : Record :=
      { channel := .text "db", level := .int 25, levelName := .text "NOTICE",
        message := .text "odd", time := 0, line := .int 7 }
    r.levelName = .text "NOTICE"
      ∧ "NOTICE" ∉ ["DEBUG", "INFO", "WARNING", "ERROR", "CRITICAL"]
      ∧ (formatWith true (.text "%(emoji)s|%(levelname)s:%(lineno)d") r).1 = .ok "|NOTICE:7" :=
  ⟨rfl, by decide, ((colored_custom rfl (by decide) _).1 (by decide)).trans rfl⟩

/-- **A level that is called by the name of the color that ends the others** is wrapped in it, and a
plain formatter on the record with an empty mark writes the name alone. -/
theorem reset_is_colored :
    let r : Record :=
      { channel := .text "db", level := .int 25, levelName := .text "RESET",
        message := .text "odd", time := 0 }
    "RESET" ∉ ["DEBUG", "INFO", "WARNING", "ERROR", "CRITICAL"]
      ∧ (formatWith true (.text "%(levelname)s") r).1 = .ok "\x1b[0mRESET\x1b[0m"
      ∧ (formatWith false (.text "%(levelname)s") (r.put "emoji" (.text ""))).1 = .ok "RESET" :=
  ⟨by decide, rfl, rfl⟩

end SqlText.Log
