import SqlText.Text.Digit
import SqlText.Text.Word

/-!
# Templates

A **template** is a text with fields. `%(name)s` stands for the value of the field `name`, and
between the name and the final letter there may be flags, a width and a precision:
`%(name)-20.5s`. A doubled percent sign stands for one. `pieces` takes a template apart, into
literal characters and directives.

Nothing is refused here. A directive that breaks off keeps what could be read of it, since what
is wrong with it is only said when its turn comes: the directives before it are filled in first.

Whether a text is fit to be a template at all is a coarser question: somewhere in it a field must
be found (`hasField`).
-/

namespace SqlText.Template

/-- A width or a precision. -/
inductive Size where
  /-- A number written in the template. -/
  | fixed (n : Nat)
  /-- An asterisk: the number is taken from the argument. -/
  | fromArgument
  deriving DecidableEq, Repr

/-- The flags of a directive. -/
structure Flags where
  /-- `-`: pads on the right. -/
  left : Bool := false
  /-- `+`: writes a sign before numbers that are not negative. -/
  plus : Bool := false
  /-- A space: writes a space before numbers that are not negative. -/
  space : Bool := false
  /-- `#`: marks the base, keeps the point. -/
  alternate : Bool := false
  /-- `0`: pads numbers with zeros. -/
  zero : Bool := false
  deriving DecidableEq, Repr

/-- What a percent sign and the characters behind it ask for. -/
structure Directive where
  /-- The field asked for; none where no name is given. -/
  key : Option String
  /-- The flags. -/
  flags : Flags
  /-- The least width. -/
  width : Option Size
  /-- The precision. -/
  precision : Option Size
  /-- The letter that says how to write the value; none where the template ends before it. -/
  conversion : Option Char
  /-- The position of that letter in the template. -/
  position : Nat
  deriving DecidableEq, Repr

/-- A part of a template. -/
inductive Piece where
  /-- A character that stands for itself. -/
  | literal (c : Char)
  /-- A directive. -/
  | directive (d : Directive)
  /-- A name that is not closed before the template ends. -/
  | openKey
  deriving DecidableEq, Repr

/-! ## Reading -/

/-- Reads the flags, and leaves what follows them. -/
def readFlags (flags : Flags) : List Char → Flags × List Char
  | '-' :: rest => readFlags { flags with left := true } rest
  | '+' :: rest => readFlags { flags with plus := true } rest
  | ' ' :: rest => readFlags { flags with space := true } rest
  | '#' :: rest => readFlags { flags with alternate := true } rest
  | '0' :: rest => readFlags { flags with zero := true } rest
  | cs => (flags, cs)

/-- The number written by decimal digits. -/
def digitsValue (cs : List Char) : Nat := cs.foldl (fun n c => 10 * n + (c.toNat - 48)) 0

/-- Reads a width or a precision, if there is one, and leaves what follows it. -/
def readSize : List Char → Option Size × List Char
  | '*' :: rest => (some .fromArgument, rest)
  | cs =>
    match cs.takeWhile Char.isDigit with
    | [] => (none, cs)
    | digits => (some (.fixed (digitsValue digits)), cs.dropWhile Char.isDigit)

/-- Reads a point and the precision behind it, which is zero where none is written. -/
def readPrecision : List Char → Option Size × List Char
  | '.' :: rest => (some ((readSize rest).1.getD (.fixed 0)), (readSize rest).2)
  | cs => (none, cs)

/-- Drops a letter that only tells the size of the value in memory. -/
def dropLengthLetter : List Char → List Char
  | 'h' :: rest | 'l' :: rest | 'L' :: rest => rest
  | cs => cs

/-- Reads a directive behind its name, in a template of the given length, and leaves what
follows it. -/
def readDirective (total : Nat) (key : Option String) (cs : List Char) : Directive × List Char :=
  let (flags, cs) := readFlags {} cs
  let (width, cs) := readSize cs
  let (precision, cs) := readPrecision cs
  let cs := dropLengthLetter cs
  (⟨key, flags, width, precision, cs.head?, total - cs.length⟩, cs.tail)

/-- Reads a name up to the parenthesis that closes it, and leaves what follows. Parentheses inside
a name are balanced; `depth` of them are open. -/
def readKey (depth : Nat) : List Char → Option (List Char × List Char)
  | [] => none
  | c :: rest =>
    if c = ')' ∧ depth = 0 then some ([], rest)
    else
      let inner := if c = '(' then depth + 1 else if c = ')' then depth - 1 else depth
      (readKey inner rest).map fun r => (c :: r.1, r.2)

/-- Takes apart the rest of a template. The first `skip` characters belong to the directive before
them. -/
def piecesFrom (total skip : Nat) : List Char → List Piece
  | [] => []
  | c :: rest =>
    match skip with
    | skip + 1 => piecesFrom total skip rest
    | 0 =>
      if c = '%' then
        match rest with
        | '%' :: _ => .literal '%' :: piecesFrom total 1 rest
        | '(' :: named =>
          match readKey 0 named with
          | none => [.openKey]
          | some (key, tail) =>
            let (d, after) := readDirective total (some (String.ofList key)) tail
            .directive d :: piecesFrom total (rest.length - after.length) rest
        | _ =>
          let (d, after) := readDirective total none rest
          .directive d :: piecesFrom total (rest.length - after.length) rest
      else .literal c :: piecesFrom total 0 rest

/-- **The pieces of a template.** -/
def pieces (template : String) : List Piece :=
  piecesFrom template.toList.length 0 template.toList

/-! ## Fitness -/

/-- The characters that may stand before a width. -/
def isFlag (c : Char) : Bool := c == '#' || c == '0' || c == '+' || c == ' ' || c == '-'

/-- The letters that may end a field, in either case; the long s and the dotted and the dotless i
are case variants of two of them. -/
def endsField (c : Char) : Bool :=
  "diouxefgcrsaDIOUXEFGCRSA%\u0130\u0131\u017f".toList.contains c

/-- Drops an asterisk or a number. -/
def dropSize : List Char → List Char
  | '*' :: rest => rest
  | cs => cs.dropWhile Text.isDecimalDigit

/-- Whether an asterisk or a number comes first. -/
def startsWithSize : List Char → Bool
  | c :: _ => c == '*' || Text.isDecimalDigit c
  | [] => false

/-- Drops a point and the precision behind it, if there is one. -/
def dropPrecision : List Char → List Char
  | '.' :: rest => if startsWithSize rest then dropSize rest else '.' :: rest
  | cs => cs

/-- Whether a field starts the text. -/
def startsWithField : List Char → Bool
  | '%' :: '(' :: rest =>
    match rest.takeWhile Text.isWord, rest.dropWhile Text.isWord with
    | _ :: _, ')' :: tail =>
      ((dropPrecision (dropSize (tail.dropWhile isFlag))).head?.map endsField).getD false
    | _, _ => false
  | _ => false

/-- **Whether a field is found somewhere** in the text. -/
def hasField : List Char → Bool
  | [] => false
  | c :: rest => startsWithField (c :: rest) || hasField rest

end SqlText.Template
