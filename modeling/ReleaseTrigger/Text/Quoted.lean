import ReleaseTrigger.Text.Basic
import ReleaseTrigger.Unicode.Categories

/-! # Quoted text

A quoted text stands between double quotes. Quotes, backslashes and controls are escaped, and
characters that would not show, or would attach to what is before them, are written by their code
points.
-/

namespace ReleaseTrigger.Quoted

/-- A character that is written by its code point. -/
def isHidden (c : Char) : Bool :=
  Text.isControl c ||
    (Text.isWide c &&
      (Unicode.graphemeExtenders.contains c.toNat || Unicode.unprintable.contains c.toNat))

def encodeChar (c : Char) : Text :=
  if c.toNat = 0 then ['\\', '0']
  else if c = '\t' then ['\\', 't']
  else if c = '\n' then ['\\', 'n']
  else if c = '\r' then ['\\', 'r']
  else if c = '"' then ['\\', '"']
  else if c = '\\' then ['\\', '\\']
  else if isHidden c then Text.of "\\u\x7b" ++ Text.hexadecimal c.toNat ++ Text.of "\x7d"
  else [c]

def encode (text : Text) : Text := '"' :: text.flatMap encodeChar ++ ['"']

end ReleaseTrigger.Quoted
