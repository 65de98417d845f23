import ColorMarkup.Tag.Effect

/-!
# ColorMarkup.Token.Note

Notes tell a host what happened to effect tags: why one was refused, that one
was never closed, or how many units one was spread over.  Positions count
bytes from the start of the text.
-/

namespace ColorMarkup

/-- How much a note matters. -/
inductive NoteLevel where
  | trace
  | debug
deriving DecidableEq, Repr

/-- The name of a level. -/
def NoteLevel.name : NoteLevel → List Char
  | .trace => "trace".toList
  | .debug => "debug".toList

/-- Something that happened to an effect tag. -/
inductive Note where
  /-- The text at a position starts like an effect but is no open tag. -/
  | rejected (kind : EffectKind) (position : Nat) (error : TagError)
  /-- The open tag at a position has no close tag after it. -/
  | unclosed (kind : EffectKind) (position : Nat)
  /-- An effect was spread over a number of units. -/
  | painted (kind : EffectKind) (units : Nat)
deriving DecidableEq, Repr

namespace Note

/-- Only what took effect is more than a trace. -/
def level : Note → NoteLevel
  | painted .. => .debug
  | _ => .trace

/-- The words of a note. -/
def message : Note → List Char
  | rejected kind position error =>
    "not a ".toList ++ kind.name ++ " at ".toList ++ Nat.toDigits 10 position ++ ": ".toList ++
      error.message
  | unclosed kind position =>
    "unclosed ".toList ++ kind.name ++ " at ".toList ++ Nat.toDigits 10 position
  | painted kind units =>
    kind.name ++ " over ".toList ++ Nat.toDigits 10 units ++ " units".toList

end Note

end ColorMarkup
