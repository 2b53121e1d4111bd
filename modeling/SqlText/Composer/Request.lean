import SqlText.Composer.Call
import SqlText.HandOff
import SqlText.Insert
import SqlText.Statement

/-!
# Requests to a composer

All that can be asked of a composer: the clause calls, and the requests that read it. Rendering
makes the statement **the latest** and reports it to the log; reading the text of the statement
does neither. Handing the composer off renders it first. No request but a clause call changes the
draft.
-/

namespace SqlText

namespace Composer

/-- What is asked of a composer. -/
inductive Request where
  /-- A clause call. -/
  | call (c : Call)
  /-- Renders the statement. -/
  | render
  /-- The text of the statement. -/
  | text
  /-- The last statement rendered. -/
  | latest
  /-- The fragments of every clause. -/
  | clauses
  /-- A short description. -/
  | describe
  /-- Renders the statement and hands it off. -/
  | handOff
  /-- The insert statement for one row, which no composer has a part in. -/
  | insert (table columns values : Value)

/-- What a composer answers. -/
inductive Reply where
  /-- The clause call is done. -/
  | done
  /-- A text. -/
  | text (s : String)
  /-- The fragments of every clause. -/
  | clauses (snapshot : List (Clause × List Value))
  /-- A statement ready to be executed. -/
  | prepared (p : HandOff.Prepared)

/-- Why a request fails. -/
inductive Failure where
  /-- The clause call is refused. -/
  | refused (r : Refusal)
  /-- The draft holds a fragment that is no text. -/
  | notText (e : NotText)
  /-- The statement is not fit to be handed off. -/
  | handOff (r : HandOff.Refusal)
  /-- The insert statement cannot be written. -/
  | insert (r : Insert.Refusal)

/-- Renders the statement, makes it the latest and reports it. -/
def render : Attempt Log.Entry Composer Failure String := do
  let c ← Attempt.state
  let s ← Attempt.ofExcept (c.draft.statement.mapError .notText)
  Attempt.update fun c => { c with latest := s }
  Attempt.write (Log.Entry.debug channel ("Rendered statement: " ++ s))
  return s

/-- **Answers a request.** -/
def answer : Request → Attempt Log.Entry Composer Failure Reply
  | .call c => do
    (perform c).mapRefusal .refused
    return .done
  | .render => do return .text (← render)
  | .text => do
    let c ← Attempt.state
    let s ← Attempt.ofExcept (c.draft.statement.mapError .notText)
    return .text s
  | .latest => do return .text (← Attempt.state).latest
  | .clauses => do return .clauses (← Attempt.state).draft.snapshot
  | .describe => do return .text (← Attempt.state).describe
  | .handOff => do
    let s ← render
    let p ← (HandOff.prepare (.text s)).mapRefusal .handOff
    return .prepared p
  | .insert table columns values => do
    let s ← Attempt.ofExcept ((Insert.statement table columns values).mapError .insert)
    return .text s

/-- The composer after a request, answered or not. -/
def after (c : Composer) (r : Request) : Composer := ((answer r).run c).state

/-- The composer after a run of requests. -/
def runAll (c : Composer) (rs : List Request) : Composer := rs.foldl after c

/-- Answers requests one after another until one fails, and then renders. -/
def answerAll : List Request → Attempt Log.Entry Composer Failure String
  | [] => render
  | r :: rest => do
    let _ ← answer r
    answerAll rest

end Composer

end SqlText
