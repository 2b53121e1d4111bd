import SqlText.Composer.Request
import SqlText.Log.Channel
import SqlText.Log.Setup

/-!
# Requests to the logging system

All that can be asked of the logging system. One request brings the two halves of the library
together: a fresh composer answers a list of requests and renders its statement, and what it has
to say on the way is delivered through the log as it stands.
-/

namespace SqlText.Log

/-- The channels the library itself speaks on. -/
def libraryChannels : List String := [Composer.channel, HandOff.channel]

/-- What is there before anything is asked of logging. Other parts of a program may have made
channels known and given them levels, the root channel included. -/
structure Surroundings where
  /-- The level of the root channel. -/
  rootLevel : Level := 30
  /-- The channels known and their own levels. -/
  channels : List (String × Level) := []
  /-- The directories and files. -/
  files : FileTree := {}

/-- The state of logging before anything was asked of it: nothing was spoken, nothing writes records
down, and the channels of the library are known. -/
def State.start (w : Surroundings := {}) : State :=
  libraryChannels.foldl State.register
    { rootLevel := w.rootLevel, channels := w.channels, files := w.files }

/-- What is asked of the logging system. -/
inductive Request where
  /-- Sets logging up. -/
  | setUp (s : Setup)
  /-- Sets logging up as an environment asks for. -/
  | setUpFrom (env : Environment)
  /-- Sets logging up as an environment asks for, unless it is set up already. -/
  | setUpOnce (env : Environment)
  /-- Looks a channel up and gives it a level, if one is named. -/
  | channel (name : Value) (level : Value := .null)
  /-- Logs a message on an occasion. -/
  | log (channel level message : Value) (occasion : Occasion)
  /-- Lets a fresh composer answer requests and render, and speak on occasions in turn. -/
  | compose (requests : List Composer.Request) (occasions : Nat → Occasion)

/-- What the logging system answers. -/
inductive Reply where
  /-- The request is done. -/
  | done
  /-- What is known of a channel. -/
  | channel (info : ChannelInfo)
  /-- The statement rendered. -/
  | statement (s : String)

/-- Why a request fails. -/
inductive Failure where
  /-- The logging system refuses it. -/
  | refused (r : Refusal)
  /-- The composer does. -/
  | composer (f : Composer.Failure)

/-- Lets a fresh composer answer requests and render, and delivers what it says. -/
def compose (requests : List Composer.Request) (occasions : Nat → Occasion) :
    Attempt String State Failure String :=
  ⟨fun s =>
    let outcome := (Composer.answerAll requests).run Composer.fresh
    let (lines, s') := s.deliverAll (spoken occasions outcome.written)
    ⟨outcome.result.mapError .composer, lines, s'⟩⟩

/-- **Answers a request.** -/
def answer : Request → Attempt String State Failure Reply
  | .setUp s => do
    (setUp s).mapRefusal .refused
    return .done
  | .setUpFrom env => do
    (setUp (Setup.ofSettings (Settings.ofEnvironment env))).mapRefusal .refused
    return .done
  | .setUpOnce env => do
    (setUpOnce (Settings.ofEnvironment env)).mapRefusal .refused
    return .done
  | .channel name level => do
    return .channel (← (channel name level).mapRefusal .refused)
  | .log name level message occasion => do
    (log name level message occasion).mapRefusal .refused
    return .done
  | .compose requests occasions => do
    return .statement (← compose requests occasions)

/-- The state of logging after a request, answered or not. -/
def State.after (s : State) (r : Request) : State := ((answer r).run s).state

/-- The state of logging after a run of requests. -/
def State.runAll (s : State) (rs : List Request) : State := rs.foldl State.after s

end SqlText.Log
