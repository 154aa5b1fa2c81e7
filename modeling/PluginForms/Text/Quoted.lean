import PluginForms.Text.Basic
import PluginForms.Text.Printable

/-!
Texts and characters as messages show them: between quotes, with escapes for
the quote itself, for backslashes and for whatever is not printable.
-/

namespace PluginForms.Text

def hexadecimal (n : Nat) : Text := Nat.toDigits 16 n

/-- One character of a text that is written between two `quote` characters. -/
def escaped (quote c : Char) : Text :=
  if c = '\t' then ['\\', 't']
  else if c = '\r' then ['\\', 'r']
  else if c = '\n' then ['\\', 'n']
  else if c = '\x00' then ['\\', '0']
  else if c = '\\' ∨ c = quote then ['\\', c]
  else if isPrintable c then [c]
  else "\\u\x7b".toList ++ hexadecimal c.toNat ++ "\x7d".toList

def quoted (t : Text) : Text :=
  ['"'] ++ t.flatMap (escaped '"') ++ ['"']

def quotedChar (c : Char) : Text :=
  ['\x27'] ++ escaped '\x27' c ++ ['\x27']

end PluginForms.Text
