/-
  Text between quotes, so that every character of it can be seen.

  The quote and the backslash get a backslash in front.  Zero, tab, line feed and carriage return
  are spelled by a digit or letter, and every other character that cannot be seen by the
  hexadecimal digits of its code point, as many as it needs.
-/
import LedAnimation.Text.Visible

namespace LedAnimation

namespace Text

/-- A character as it stands between quotes. -/
def spelled (c : Char) : List Char :=
  if c = '\x00' then ['\\', '0']
  else if c = '\t' then ['\\', 't']
  else if c = '\n' then ['\\', 'n']
  else if c = '\r' then ['\\', 'r']
  else if c = '\x22' ∨ c = '\\' then ['\\', c]
  else if isVisible c then [c]
  else ['\\', 'u', '\x7b'] ++ Nat.toDigits 16 c.toNat ++ ['\x7d']

/-- A text between quotes. -/
def quoted (text : String) : String :=
  String.ofList ('\x22' :: text.toList.flatMap spelled ++ ['\x22'])

example : quoted "a b" = "\"a b\"" := by decide +kernel
example : quoted "it's\r" = "\"it's\\r\"" := by decide +kernel
example : quoted "\x1b[é" = "\"\\u\x7b1b\x7d[é\"" := by decide +kernel

end Text

end LedAnimation
