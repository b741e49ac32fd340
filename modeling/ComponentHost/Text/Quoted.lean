import ComponentHost.Text.Extending
import ComponentHost.Text.Unprintable

/-! Text in double quotes. A quote, a backslash and the usual line controls are escaped with a
backslash; a character that does not print, or that would change the look of the one before it,
is written by its code point. -/

namespace ComponentHost.Text

def codePoint (c : Char) : List Char :=
  ['\\', 'u', '\x7b'] ++ Nat.toDigits 16 c.toNat ++ ['\x7d']

def isPlain (c : Char) : Bool := 0x20 ≤ c.toNat && c.toNat ≤ 0x7e

def escape (c : Char) : List Char :=
  if c = '"' then ['\\', '"']
  else if c = '\\' then ['\\', '\\']
  else if isPlain c then [c]
  else if c = '\n' then ['\\', 'n']
  else if c = '\r' then ['\\', 'r']
  else if c = '\t' then ['\\', 't']
  else if c = '\x00' then ['\\', '0']
  else if isExtending c ∨ isUnprintable c then codePoint c
  else [c]

def quoted (s : String) : String :=
  String.ofList ('"' :: s.toList.flatMap escape ++ ['"'])

example : quoted "a\"b\n" = "\"a\\\"b\\n\"" := by decide

example : quoted "\x7f" = "\"\\u\x7b7f\x7d\"" := by decide +kernel

end ComponentHost.Text
