import SqlText.Log.LevelName

/-!
# Looking channels up and speaking on them

A channel is known from the moment it is first looked up or spoken on. Looking it up by a name
tells its level and the level that holds for it, and may give it a level of its own; a name that
is null or empty is the root channel's.
-/

namespace SqlText.Log

/-- What is known of a channel. -/
structure ChannelInfo where
  /-- Its name. -/
  name : String
  /-- The level it has of its own. -/
  own : Level
  /-- The level that holds for it. -/
  effective : Level
  deriving DecidableEq, Repr

/-- The name of the channel a value stands for. -/
def channelName (v : Value) : Except Refusal String :=
  if v.isTruthy then
    match v with
    | .text s => .ok s
    | _ => .error .channelNotText
  else .ok rootName

/-- What the system knows of a channel. -/
def State.info (s : State) (name : String) : ChannelInfo :=
  ⟨if isRoot name then rootName else name, s.ownLevel name, s.effectiveLevel name⟩

/-- Looks a channel up and gives it a level, if one is named. -/
def channel (name level : Value) : Step ChannelInfo := do
  let name ← Attempt.ofExcept (channelName name)
  Attempt.update fun s => s.register name
  if level.isTruthy then
    let n ← Attempt.ofExcept (levelOf level)
    Attempt.update fun s => s.setLevel name n
  return (← Attempt.state).info name

/-- Delivers an entry. -/
def deliver (e : Spoken) : Step Unit :=
  ⟨fun s =>
    let (lines, s') := s.deliver e
    ⟨.ok (), lines, s'⟩⟩

/-- The level at which a value asks for a message to be logged; a truth value counts as zero or
one. -/
def levelNumber (v : Value) : Except Refusal Level :=
  match v.asInt? with
  | some n => .ok n
  | none => .error .levelNotWhole

/-- Logs a message on some occasion. The channel is looked up before the level, and known even if
that is refused. -/
def log (name level message : Value) (occasion : Occasion) : Step Unit := do
  let name ← Attempt.ofExcept (channelName name)
  Attempt.update fun s => s.register name
  let n ← Attempt.ofExcept (levelNumber level)
  deliver
    { toOccasion := occasion, channel := name, level := n, message := message.toText,
      levelName := Level.nameOf level }

end SqlText.Log
