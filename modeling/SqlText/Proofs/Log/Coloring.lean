import SqlText.Proofs.Codes
import SqlText.Proofs.Log.Formatting

/-!
# What colors change

A colored formatter fills its template in with another name in the place of the level's name: the
name between the code of its color and the code that ends colors. Where the template names the
level plainly, the codes go in around the name and **nothing else that is written depends on
them**, so they can be taken out again (`color_is_transparent`). A width or a precision would count
the characters of the codes too.

There is one other way for a level's name to be written: a first directive that names no field
writes the record as a whole, with the colored name in it as a literal. The escape characters are
spelled out there, and what is spelled out is no code that could be taken out
(`color_in_whole_record`).
-/

namespace SqlText.Log

open Template Text

variable {r : Record} {template name color : String}

/-! ## Two records -/

theorem lookup_of_ne_levelName {key : String} (h : key ≠ "levelname") (r : Record) (v : Value) :
    ({ r with levelName := v } : Record).fields.lookup key = r.fields.lookup key := by
  have hkey : (key == "levelname") = false := by simpa using h
  simp only [Record.fields, Record.ownFields, List.cons_append, List.lookup_cons, hkey]

theorem finish_levelName (r : Record) (v : Value) (s : String) :
    ({ r with levelName := v } : Record).finish s = r.finish s := by
  have htext : ({ r with levelName := v } : Record).reported.errorText = r.reported.errorText := by
    unfold Record.reported Record.owesReport
    split <;> rfl
  rw [Record.finish, Record.finish, htext]

/-- The template of a formatter is the one asked for, or it stands for an empty one. -/
theorem template_of_make {f : Formatter} (h : Formatter.make false (.text template) = .ok f) :
    f.template = template ∨ template = "" ∧ f.template = "%(message)s" := by
  unfold Formatter.make templateOf at h
  by_cases hempty : template = ""
  · subst hempty
    obtain rfl := Except.ok.inj h
    exact .inr ⟨rfl, rfl⟩
  · have htruthy : (Value.text template).isTruthy = true := by
      simpa [Value.isTruthy] using hempty
    simp only [if_pos htruthy] at h
    split at h
    · obtain rfl := Except.ok.inj h
      exact .inl rfl
    · cases h

theorem formatWith_plain {f : Formatter} (h : Formatter.make false (.text template) = .ok f)
    (r : Record) : (formatWith false (.text template) r).1 = (r.write f.template).1 := by
  have hplain : f.colored = false := colored_of_make h
  rw [formatWith_of_made h, Formatter.format, hplain, if_neg Bool.false_ne_true]

/-- The template of a formatter names the level as the one asked for does. -/
theorem names_of_make {f : Formatter} (h : Formatter.make false (.text template) = .ok f) :
    (NamePlainly "levelname" (pieces template) → NamePlainly "levelname" (pieces f.template))
      ∧ (StartNamed (pieces template) → StartNamed (pieces f.template))
      ∧ timesNamed "levelname" (pieces f.template) = timesNamed "levelname" (pieces template) := by
  rcases template_of_make h with heq | ⟨rfl, heq⟩
  · rw [heq]
    exact ⟨id, id, rfl⟩
  · rw [heq]
    decide

theorem colorize_eq (h : colors.lookup name = some color) :
    colorize (.text name) = .text (color ++ name ++ resetColor) := by
  simp only [colorize, Value.asText?, Option.bind_some, h, Value.toText_text]

/-- **The colors are codes.** No color of a level starts with the code that ends colors or is the
start of it, and no name has an escape character in it. -/
theorem codes_of_colors :
    ∀ row ∈ colors, IsCode row.2.toList ∧ escape ∉ row.1.toList
      ∧ (row.1 ≠ "RESET" → ¬ row.2.toList <+: resetColor.toList
        ∧ ¬ resetColor.toList <+: row.2.toList) := by
  decide

theorem mem_of_lookup {table : List (String × String)} (h : table.lookup name = some color) :
    (name, color) ∈ table := by
  obtain ⟨before, after, rfl, -⟩ := List.lookup_eq_some_iff.1 h
  simp

/-- **Text that is written around the level's name** has the codes in it that are put around the
name, and no other. -/
theorem takeOut_colored (hcolor : colors.lookup name = some color) (hname : name ≠ "RESET")
    {spans : List (Option (List Char))} (hplain : escape ∉ closeGaps name.toList spans) :
    let out := closeGaps (color ++ name ++ resetColor).toList spans
    takeOut resetColor.toList (takeOut color.toList out) = closeGaps name.toList spans
      ∧ timesFound color.toList out = spans.count none := by
  obtain ⟨hcode, hnone, hapart⟩ := codes_of_colors _ (mem_of_lookup hcolor)
  have hreset : IsCode resetColor.toList := by decide
  have hspans : ∀ cs, some cs ∈ spans → escape ∉ cs :=
    fun cs hcs hmem => hplain (List.mem_flatMap.2 ⟨some cs, hcs, hmem⟩)
  have hfirst : Reads color.toList (color ++ name ++ resetColor).toList
      (name.toList ++ resetColor.toList) 1 := by
    rw [String.toList_append, String.toList_append]
    exact ((reads_code hcode).append (reads_plain hcode hnone)).append
      (reads_other hcode hreset (hapart hname).1 (hapart hname).2)
  have hsecond : Reads resetColor.toList (name.toList ++ resetColor.toList) name.toList 1 := by
    simpa using (reads_plain hreset hnone).append (reads_code hreset)
  obtain ⟨hleft, htimes⟩ := (reads_closeGaps hcode hfirst hspans).all
  intro out
  rw [hleft, htimes, Nat.one_mul]
  exact ⟨(reads_closeGaps hreset hsecond hspans).all.1, rfl⟩

/-! ## What is written behind a template -/

/-- Texts that both end a line or both do not are followed by the same. -/
theorem addLines_same_tail {s s' : String}
    (h : s.toList.getLast?.map (· == '\n') = s'.toList.getLast?.map (· == '\n'))
    (more : Option String) :
    ∃ tail, (addLines s more).toList = s.toList ++ tail
      ∧ (addLines s' more).toList = s'.toList ++ tail := by
  have hends : ∀ o : Option Char, o = some '\n' ↔ o.map (· == '\n') = some true := by
    intro o
    cases o <;> simp
  have hiff : s.toList.getLast? = some '\n' ↔ s'.toList.getLast? = some '\n' := by
    rw [hends, hends, h]
  unfold addLines
  by_cases hmore : more.getD "" = ""
  · simp only [if_pos hmore]
    exact ⟨[], (List.append_nil _).symm, (List.append_nil _).symm⟩
  · simp only [if_neg hmore]
    by_cases hline : s.toList.getLast? = some '\n'
    · rw [if_pos hline, if_pos (hiff.1 hline)]
      exact ⟨_, String.toList_append, String.toList_append⟩
    · rw [if_neg hline, if_neg (mt hiff.2 hline), String.append_assoc, String.append_assoc]
      exact ⟨_, String.toList_append, String.toList_append⟩

/-- So it is with a record that has an error and calls to tell of. -/
theorem finish_same_tail {s s' : String}
    (h : s.toList.getLast?.map (· == '\n') = s'.toList.getLast?.map (· == '\n')) (r : Record) :
    ∃ tail, (r.finish s).toList = s.toList ++ tail ∧ (r.finish s').toList = s'.toList ++ tail := by
  obtain ⟨tail, hs, hs'⟩ := addLines_same_tail h r.reported.errorText
  have h' : (addLines s r.reported.errorText).toList.getLast?.map (· == '\n')
      = (addLines s' r.reported.errorText).toList.getLast?.map (· == '\n') := by
    rw [hs, hs', List.getLast?_append, List.getLast?_append, Option.map_or, Option.map_or, h]
  obtain ⟨more, hmore, hmore'⟩ := addLines_same_tail h' r.stack
  refine ⟨tail ++ more, ?_, ?_⟩
  · rw [Record.finish, hmore, hs, List.append_assoc]
  · rw [Record.finish, hmore', hs', List.append_assoc]

/-- A colored name ends no line, and neither does the name alone. -/
theorem getLast?_colored (hcolor : colors.lookup name = some color) :
    name.toList.getLast?.map (· == '\n')
      = (color ++ name ++ resetColor).toList.getLast?.map (· == '\n') := by
  have hnames : ∀ row ∈ colors, row.1.toList.getLast?.map (· == '\n') = some false := by decide
  have hreset : resetColor.toList.getLast?.map (· == '\n') = some false := by decide
  rw [hnames _ (mem_of_lookup hcolor), String.toList_append, List.getLast?_append, Option.map_or,
    hreset]
  rfl

/-! ## Colored and plain -/

/-- **A record with a colored name of its level** is written where it is written with the name
alone, and the codes can be taken out again as long as the record is not written as a whole. -/
theorem write_colored (hlevel : r.levelName = .text name)
    (hcolor : colors.lookup name = some color) (hname : name ≠ "RESET")
    (hplain : NamePlainly "levelname" (pieces template)) :
    let colored := (({ r with levelName := .text (color ++ name ++ resetColor) } : Record).write
      template).1
    (∀ e, colored = .error e ↔ (r.write template).1 = .error e)
      ∧ ∀ text, (r.write template).1 = .ok text → escape ∉ text.toList →
        StartNamed (pieces template) →
          ∃ out, colored = .ok out
            ∧ takeOut resetColor.toList (takeOut color.toList out.toList) = text.toList
            ∧ timesFound color.toList out.toList
              = timesNamed "levelname" (pieces template) := by
  intro colored
  let other : Record := { r with levelName := .text (color ++ name ++ resetColor) }
  cases hsaid : r.said with
  | error reason =>
    have hcolored : colored = .error (.unsaid reason) := write_of_unsaid (r := other) hsaid template
    rw [hcolored, write_of_unsaid hsaid]
    exact ⟨fun _ => Iff.rfl, fun _ h => by cases h⟩
  | ok message =>
    let ready := r.ready template message
    let wrapped : Record := { ready with levelName := .text (color ++ name ++ resetColor) }
    have hwritten : (r.write template).1
        = ((fill ready.fields template).mapError .fault).map ready.finish :=
      write_of_said hsaid template
    have hcolored : colored
        = ((fill wrapped.fields template).mapError .fault).map ready.finish := by
      refine (write_of_said (r := other) hsaid template).trans ?_
      rw [ready_levelName, funext (finish_levelName _ _)]
    have hs : ready.fields.lookup "levelname" = some (.text name) := by
      rw [← hlevel, ← levelName_ready r template message]
      rfl
    have hs' : wrapped.fields.lookup "levelname" = some (.text (color ++ name ++ resetColor)) := rfl
    have hothers : ∀ key ≠ "levelname", ready.fields.lookup key = wrapped.fields.lookup key :=
      fun key hkey => (lookup_of_ne_levelName hkey ready _).symm
    rw [hwritten, hcolored]
    unfold fill
    rcases fillFrom_around hs hs' hothers hplain ready.fields wrapped.fields with
      ⟨e, hx, hy⟩ | ⟨cs, cs', hx, hy, haround⟩
    · rw [hx, hy]
      exact ⟨fun _ => Iff.rfl, fun _ h => by cases h⟩
    · rw [hx, hy]
      refine ⟨fun e => iff_of_false nofun nofun, fun text htext hescape hstart => ?_⟩
      obtain rfl := Except.ok.inj htext
      obtain ⟨spans, rfl, rfl, htimes⟩ := haround hstart
      have hends : (String.ofList (closeGaps name.toList spans)).toList.getLast?.map (· == '\n')
          = (String.ofList (closeGaps (color ++ name ++ resetColor).toList
              spans)).toList.getLast?.map (· == '\n') := by
        rw [String.toList_ofList, String.toList_ofList]
        exact getLast?_closeGaps _ (getLast?_colored hcolor) spans
      obtain ⟨tail, htail, htail'⟩ := finish_same_tail hends ready
      -- what is written behind the template is one more run of characters without a gap
      have hgaps : ∀ zs, closeGaps zs spans ++ tail = closeGaps zs (spans ++ [some tail]) := by
        intro zs
        simp [closeGaps, List.flatMap_append]
      rw [String.toList_ofList, hgaps] at htail htail'
      rw [htail] at hescape ⊢
      obtain ⟨hleft, hfound⟩ := takeOut_colored hcolor hname hescape
      refine ⟨_, rfl, ?_, ?_⟩
      · rw [htail', hleft]
      · rw [htail', hfound, ← htimes, List.count_append]
        rfl

/-- **Coloring is transparent** at the five levels, wherever a template names the level plainly. A
colored formatter is refused, and for the same reason, where a plain one is on the record with the
mark of its level. And where the plain one writes a text without an escape character, and no first
directive writes the record as a whole, the colored one writes a text that is the same without the
code of the color and the code that ends colors; the color is found in it as often as the level is
named. -/
theorem color_is_transparent (hlevel : r.levelName = .text name)
    (hname : name ∈ ["DEBUG", "INFO", "WARNING", "ERROR", "CRITICAL"])
    (hcolor : colors.lookup name = some color)
    (hplain : NamePlainly "levelname" (pieces template)) :
    let plain := (formatWith false (.text template) (r.put "emoji" (.text (signOf (.text name))))).1
    let colored := (formatWith true (.text template) r).1
    (∀ e, colored = .error e ↔ plain = .error e)
      ∧ ∀ text, plain = .ok text → escape ∉ text.toList → StartNamed (pieces template) →
        ∃ out, colored = .ok out
          ∧ takeOut resetColor.toList (takeOut color.toList out.toList) = text.toList
          ∧ timesFound color.toList out.toList = timesNamed "levelname" (pieces template) := by
  rw [← hlevel]
  intro plain colored
  have hcolored : colored = (formatWith false (.text template)
      { r.marked with levelName := .text (color ++ name ++ resetColor) }).1 := by
    rw [← colorize_eq hcolor]
    exact formatWith_colored hlevel _
  cases hmake : Formatter.make false (.text template) with
  | error e =>
    have hp : plain = .error e := congrArg Prod.fst (formatWith_of_refused hmake _)
    have hc : colored = .error e :=
      hcolored.trans (congrArg Prod.fst (formatWith_of_refused hmake _))
    rw [hp, hc]
    exact ⟨fun _ => Iff.rfl, fun _ h => by cases h⟩
  | ok f =>
    obtain ⟨hplain', hstart', htimes⟩ := names_of_make hmake
    have hreset : name ≠ "RESET" := by rintro rfl; exact absurd hname (by decide)
    have hp : plain = (r.marked.write f.template).1 := formatWith_plain hmake r.marked
    rw [formatWith_plain hmake] at hcolored
    obtain ⟨hrefused, hwritten⟩ :=
      write_colored (r := r.marked) hlevel hcolor hreset (hplain' hplain)
    rw [hp, hcolored]
    refine ⟨hrefused, fun text htext hescape hstart => ?_⟩
    rw [← htimes]
    exact hwritten text htext hescape (hstart' hstart)

/-- A level that is named twice, with a cut and a padded field beside it, the line it was spoken
on, and the report of an error behind the template. -/
theorem color_is_transparent_twice :
    let r : Record :=
      { channel := .text "db", level := .int 40, levelName := .text "ERROR",
        message := .text "odd", time := 0, line := .int 7, errorText := some "Fault: odd" }
    let template := "%(emoji)s %(levelname)s %(name).1s|%(levelname)s:%(message)5s@%(lineno)d"
    "ERROR" ∈ ["DEBUG", "INFO", "WARNING", "ERROR", "CRITICAL"]
      ∧ colors.lookup "ERROR" = some "\x1b[31m" ∧ NamePlainly "levelname" (pieces template)
      ∧ ∃ out, (formatWith true (.text template) r).1 = .ok out
        ∧ takeOut resetColor.toList (takeOut "\x1b[31m".toList out.toList)
          = "❌ ERROR d|ERROR:  odd@7\nFault: odd".toList
        ∧ timesFound "\x1b[31m".toList out.toList = 2 := by
  have hname : "ERROR" ∈ ["DEBUG", "INFO", "WARNING", "ERROR", "CRITICAL"] := by decide
  have hcolor : colors.lookup "ERROR" = some "\x1b[31m" := rfl
  have htext : (formatWith false
        (.text "%(emoji)s %(levelname)s %(name).1s|%(levelname)s:%(message)5s@%(lineno)d")
        (Record.put
          { channel := .text "db", level := .int 40, levelName := .text "ERROR",
            message := .text "odd", time := 0, line := .int 7, errorText := some "Fault: odd" }
          "emoji" (.text (signOf (.text "ERROR"))))).1
      = .ok "❌ ERROR d|ERROR:  odd@7\nFault: odd" := rfl
  intro r template
  have hplain : NamePlainly "levelname" (pieces template) := by decide
  have hstart : StartNamed (pieces template) := by decide
  have htimes : timesNamed "levelname" (pieces template) = 2 := by decide
  refine ⟨hname, hcolor, hplain, ?_⟩
  rw [← htimes]
  exact (color_is_transparent rfl hname hcolor hplain).2 _ htext (by decide) hstart

/-! ## The record as a whole -/

/-- The literal of a record, as far as it tells of the level's name. -/
def Record.start (r : Record) : String :=
  "\x7b" ++ String.intercalate ", " (Value.entryLiterals
    [("name", r.channel), ("msg", r.message), ("args", r.arguments), ("levelname", r.levelName)])

theorem pieces_whole :
    pieces "%.57s|%(message)s"
      = .directive (whole (some 57) 4)
        :: (literals "|" ++ [.directive (textField "message" 16)]) := by
  decide

/-- A record is cut within the name of its level, whatever stands behind that. -/
theorem write_whole_cut {message : String} (h : r.Bare message) (hcut : 57 ≤ r.start.toList.length)
    {written : String}
    (hwritten : r.start.toList.take 57 ++ '|' :: message.toList = written.toList) :
    (r.write "%.57s|%(message)s").1 = .ok written := by
  have hready : (r.ready "%.57s|%(message)s" message).start = r.start :=
    ready_invariant (P := fun x => x.start = r.start) (fun _ _ _ _ hx => hx) rfl _ _
  obtain ⟨more, hfields, hmore⟩ : ∃ more, (r.ready "%.57s|%(message)s" message).fields
      = [("name", _), ("msg", _), ("args", _), ("levelname", _)] ++ more ∧ more ≠ [] :=
    ⟨_, rfl, List.cons_ne_nil _ _⟩
  have hbody : (writeText (some 57)
      (Value.object (r.ready "%.57s|%(message)s" message).fields).literal).body
        = r.start.toList.take 57 := by
    rw [hfields, literal_object_append (List.cons_ne_nil _ _) hmore, ← hready, writeText,
      String.toList_append, List.take_append_of_le_length (by rwa [← hready] at hcut)]
    rfl
  rw [h.write, fill, pieces_whole, fillFrom_whole (by decide), fillFrom_literals,
    fillFrom_textField (lookup_ready_message r _ message), fillFrom_nil, hbody]
  refine congrArg Except.ok (String.toList_inj.1 ?_)
  rw [String.toList_ofList, ← hwritten]
  simp

/-- **The record as a whole shows the colored name**, spelled out: a template that names the level
nowhere writes other texts on the two records, and there is no code to be taken out. -/
theorem color_in_whole_record :
    let r : Record :=
      { channel := .text "x", level := .int 20, levelName := .text "INFO", message := .text "m",
        time := 0 }
    let template := "%.57s|%(message)s"
    "INFO" ∈ ["DEBUG", "INFO", "WARNING", "ERROR", "CRITICAL"]
      ∧ colors.lookup "INFO" = some "\x1b[32m" ∧ NamePlainly "levelname" (pieces template)
      ∧ ∃ text out,
        (formatWith false (.text template) (r.put "emoji" (.text (signOf (.text "INFO"))))).1
          = .ok text
        ∧ escape ∉ text.toList ∧ (formatWith true (.text template) r).1 = .ok out
        ∧ takeOut resetColor.toList (takeOut "\x1b[32m".toList out.toList) ≠ text.toList := by
  have hmake : Formatter.make false (.text "%.57s|%(message)s")
      = .ok ⟨false, "%.57s|%(message)s"⟩ := rfl
  refine ⟨by decide, rfl, by decide,
    "\x7b'name': 'x', 'msg': 'm', 'args': None, 'levelname': 'INF|m",
    "\x7b'name': 'x', 'msg': 'm', 'args': None, 'levelname': '\\x1|m", ?_, by decide,
    ?_, by decide⟩
  · rw [formatWith_plain hmake]
    exact write_whole_cut ⟨rfl, rfl, rfl, rfl⟩ (by decide) (by decide)
  · rw [formatWith_colored rfl, formatWith_plain hmake]
    exact write_whole_cut ⟨rfl, rfl, rfl, rfl⟩ (by decide) (by decide)

end SqlText.Log
