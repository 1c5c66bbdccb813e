import ReleaseTrigger.Text.Terminal

/-! # Styled text

A message is a list of spans, each with a style. Where colours are wanted, a span is put between the
sequences that switch its style on and off; elsewhere the message is freed of all sequences.
-/

namespace ReleaseTrigger

/-- The parameters of the sequences that switch a style on; none for plain text. -/
abbrev Style := List Text

namespace Style

def plain : Style := []

/-- What is to be typed as it stands. -/
def literal : Style := [Text.of "1"]

def header : Style := [Text.of "1", Text.of "4"]

def error : Style := [Text.of "1", Text.of "31"]

/-- What would have been right. -/
def valid : Style := [Text.of "32"]

/-- What was wrong. -/
def invalid : Style := [Text.of "33"]

def success : Style := [Text.of "1;32"]

def failure : Style := [Text.of "1;31"]

def dimmed : Style := [Text.of "2"]

def italic : Style := [Text.of "3"]

def green : Style := [Text.of "32"]

def yellow : Style := [Text.of "33"]

def blue : Style := [Text.of "34"]

end Style

/-- The sequence that selects a graphic rendition. -/
def renditionSequence (parameter : Text) : Text :=
  Char.ofNat 0x1B :: '[' :: parameter ++ ['m']

/-- Text in one style. -/
structure Span where
  style : Style
  text : Text
deriving DecidableEq, Repr

def Span.coloured (span : Span) : Text :=
  if span.style.isEmpty then span.text
  else span.style.flatMap renditionSequence ++ span.text ++ renditionSequence ['0']

abbrev Styled := List Span

namespace Styled

def plain (text : Text) : Styled := [⟨Style.plain, text⟩]

def one (style : Style) (text : Text) : Styled := [⟨style, text⟩]

def text (message : Styled) : Text := message.flatMap (·.text)

def coloured (message : Styled) : Text := message.flatMap Span.coloured

/-- The message without any sequence, its own or one in its text. -/
def stripped (message : Styled) : Text := Terminal.strip message.coloured

end Styled

end ReleaseTrigger
