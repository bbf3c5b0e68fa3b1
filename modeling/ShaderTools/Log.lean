import ShaderTools.Text.Basic

/-!
What a run tells of itself where errors are told: messages of its own, and events for the log. How
an event is written there, and whether it is, is up to the journal that keeps the log.
-/

namespace ShaderTools.Log

inductive Level where
  | info
  | debug
  | trace
  deriving DecidableEq, Repr

/-- Something that happened, as it is handed to the log: the part of the program that tells of it,
the message, and values under their names. -/
structure Event where
  level : Level
  target : Text
  message : Text
  fields : List (Text × Text)
  deriving DecidableEq, Repr

inductive Notice where
  | message (text : Text)
  | event (event : Event)
  deriving DecidableEq, Repr

/-- The text that is written for the last one of some events. It may tell the time, and it includes
what other packages log before the next event. The text for no event is written when the log is
opened. -/
abbrev Journal := List Event → Text

/-- The messages among notices. -/
def messages (notices : List Notice) : Text :=
  notices.flatMap fun
    | .message text => text
    | .event _ => []

/-- The events among notices. -/
def events (notices : List Notice) : List Event :=
  notices.filterMap fun
    | .message _ => none
    | .event e => some e

namespace Journal

/-- The text for the events of a list that come behind some earlier ones. -/
def textOfEvents (j : Journal) : (before : List Event) → List Event → Text
  | _, [] => []
  | before, e :: rest => j (before ++ [e]) ++ j.textOfEvents (before ++ [e]) rest

/-- The text of notices that come behind some events. -/
def textBehind (j : Journal) : (before : List Event) → List Notice → Text
  | _, [] => []
  | before, .message text :: rest => text ++ j.textBehind before rest
  | before, .event e :: rest => j (before ++ [e]) ++ j.textBehind (before ++ [e]) rest

/-- All that is written for some events, from the opening of the log on. -/
def logged (j : Journal) (events : List Event) : Text := j [] ++ j.textOfEvents [] events

/-- All that is written for notices, from the opening of the log on. -/
def text (j : Journal) (notices : List Notice) : Text := j [] ++ j.textBehind [] notices

end Journal

end ShaderTools.Log
