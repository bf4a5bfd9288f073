import ActionGateway.Text.Extender
import ActionGateway.Text.Printable

/-!
# Quoted text

The form in which messages and descriptions show a text that came from outside: in double quotes,
with everything that could not be told apart on paper spelled out.
-/

namespace ActionGateway.Text

/-- The digits of `n` in base 16, in lower case and without leading zeros. -/
def hexDigits (n : Nat) : List Char :=
  Nat.toDigits 16 n

/-- How one character is shown: five escapes of two characters, a code in hexadecimal for what
extends its predecessor or does not print, and all else as it is. -/
def quotedChar (c : Char) : List Char :=
  if c = '\x00' then ['\\', '0']
  else if c = '\t' then ['\\', 't']
  else if c = '\r' then ['\\', 'r']
  else if c = '\n' then ['\\', 'n']
  else if c = '\\' then ['\\', '\\']
  else if c = '\x22' then ['\\', '\x22']
  else if isExtender c || !isPrintable c then
    ['\\', 'u', '\x7b'] ++ hexDigits c.toNat ++ ['\x7d']
  else [c]

/-- The text in double quotes. -/
def quoted (s : String) : String :=
  String.ofList ('\x22' :: s.toList.flatMap quotedChar ++ ['\x22'])

end ActionGateway.Text
