import PluginForms.Text.Basic

/-!
Percent encoding. Each part of a url has a class of ASCII characters that may
not stand in it as they are; characters past ASCII are always written as the
bytes of their UTF-8 form.
-/

namespace PluginForms.Url

/-- Control characters and everything past ASCII. -/
def encodesControls (c : Char) : Bool := c.toNat < 0x20 || 0x7f ≤ c.toNat

def encodesInQuery (c : Char) : Bool := encodesControls c || " \"#<>".toList.contains c

def encodesInWebQuery (c : Char) : Bool := encodesInQuery c || c == '\x27'

def encodesInFragment (c : Char) : Bool := encodesControls c || " \"<>\x60".toList.contains c

def encodesInPath (c : Char) : Bool := encodesInFragment c || "#?\x7b\x7d".toList.contains c

def encodesInCredentials (c : Char) : Bool := encodesInPath c || "/:;=@[\\]^|".toList.contains c

def hexDigit (n : Nat) : Char :=
  if n < 10 then Char.ofNat ('0'.toNat + n) else Char.ofNat ('A'.toNat + (n - 10))

def hexValue? (c : Char) : Option Nat :=
  if '0' ≤ c ∧ c ≤ '9' then some (c.toNat - '0'.toNat)
  else if 'a' ≤ c ∧ c ≤ 'f' then some (c.toNat - 'a'.toNat + 10)
  else if 'A' ≤ c ∧ c ≤ 'F' then some (c.toNat - 'A'.toNat + 10)
  else none

def percentByte (b : UInt8) : Text := ['%', hexDigit (b.toNat / 16), hexDigit (b.toNat % 16)]

def percentEncode (encodes : Char → Bool) (t : Text) : Text :=
  t.flatMap fun c => if encodes c then (String.utf8EncodeChar c).flatMap percentByte else [c]

/-- The bytes that a text stands for. A percent sign without two digits stands for itself. -/
def percentDecode : Text → List UInt8
  | '%' :: a :: b :: t =>
    match hexValue? a, hexValue? b with
    | some x, some y => UInt8.ofNat (16 * x + y) :: percentDecode t
    | _, _ => '%'.toUInt8 :: percentDecode (a :: b :: t)
  | c :: t => String.utf8EncodeChar c ++ percentDecode t
  | [] => []

end PluginForms.Url
