import DiagnosticRelay.Text.Width

/-!
# Printing on a console

What is printed is plain text: no markup is read, no line is wrapped and, since the
output is not a terminal, no colour is written.  Five controls are dropped on the way
(bell, backspace, vertical tab, form feed, carriage return), every tab becomes blanks up to
the next multiple of eight cells of its line, and a line feed is put at the end.

Messages to the user begin with a sign for their kind, unless signs are switched off.
-/

namespace DiagnosticRelay

namespace Console

/-- Whether a control is dropped from what is printed. -/
def isDropped (c : CodePoint) : Bool :=
  c == .char '\x07' || c == .char '\x08' || c == .char '\x0b' || c == .char '\x0c'
    || c == .char '\r'

/-- A text without the controls that are not printed. -/
def plain (t : Text) : Text := t.filter fun c => !isDropped c

/-- The number of cells between tab stops. -/
def tabStop : Nat := 8

/-- A text with its tabs filled up, after what has been measured of its line.  A tab is one
blank, measured like any other, and then the blanks up to the next tab stop; the measure
starts afresh behind it, so that nothing before a tab acts on what follows. -/
def fillTabs : Measure → Text → Text
  | _, [] => []
  | m, c :: rest =>
    if c = .char '\n' then c :: fillTabs (.start 0) rest
    else if c = .char '\t' then
      let cells := (m.step (.char ' ')).cells
      let missing := (tabStop - cells % tabStop) % tabStop
      List.replicate (missing + 1) (.char ' ') ++ fillTabs (.start (cells + missing)) rest
    else c :: fillTabs (m.step c) rest

/-- A text as it is printed. -/
def print (t : Text) : Text := fillTabs (.start 0) (plain t) ++ text "\n"

/-- The kinds of messages to the user. -/
inductive Level where
  | info
  | ok
  | warn
  | fail
  deriving DecidableEq

/-- The sign of a kind of message. -/
def Level.sign : Level → Text
  | .info => text "ℹ️ "
  | .ok => text "✅ "
  | .warn => text "⚠️ "
  | .fail => text "❌ "

/-- A message to the user, as it is printed. -/
def message (level : Level) (signs : Bool) (t : Text) : Text :=
  print ((if signs then level.sign else []) ++ t)

end Console

end DiagnosticRelay
