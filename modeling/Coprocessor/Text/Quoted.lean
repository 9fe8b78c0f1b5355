import Coprocessor.Text.Unprintable

/-!
# Quoted text — one line, between double quotes

A quoted text shows which characters it holds: quotes and backslashes are
marked by a backslash, the common controls have letters, and whatever cannot be
printed is written as its code point. A single quote stands for itself.
-/

namespace Coprocessor.Text

/-- A character as it stands inside quotes. -/
def quotedChar (c : Char) : List Char :=
  if c = '\x00' then ['\\', '0']
  else if c = '\t' then ['\\', 't']
  else if c = '\r' then ['\\', 'r']
  else if c = '\n' then ['\\', 'n']
  else if c = '"' then ['\\', '"']
  else if c = '\\' then ['\\', '\\']
  else if isUnprintable c then
    ['\\', 'u', '\x7b'] ++ Nat.toDigits 16 c.toNat ++ ['\x7d']
  else [c]

/-- A text between quotes. -/
def quoted (text : String) : String :=
  String.ofList ('"' :: text.toList.flatMap quotedChar ++ ['"'])

end Coprocessor.Text
