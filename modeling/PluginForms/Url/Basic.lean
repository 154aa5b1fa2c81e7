import PluginForms.Text.Basic

/-!
A url is its canonical text. How text is brought into that form is left to a
reader, and everything above this module works with any reader.

Urls are written into comma separated lists, so a listed url has no comma:
`listed` writes each one as `%2C` and reads the result again. Where the reader
turns it back into a comma, as in host names, the url cannot be listed.
-/

namespace PluginForms

structure Url where
  text : Text
  deriving DecidableEq, Repr

namespace Url

inductive Fault
  | noScheme
  | emptyHost
  | portNumber
  | ipv4
  | ipv6
  | domain
  | hostCharacter
  | comma
  deriving DecidableEq, Repr

def Fault.message : Fault → Text
  | .noScheme => "relative URL without a base".toList
  | .emptyHost => "empty host".toList
  | .portNumber => "invalid port number".toList
  | .ipv4 => "invalid IPv4 address".toList
  | .ipv6 => "invalid IPv6 address".toList
  | .domain => "invalid international domain name".toList
  | .hostCharacter => "invalid domain character".toList
  | .comma => "',' is only allowed where it can be percent-encoded".toList

/-- Turns text into a url, or says why it is none. -/
abbrev Reader := Text → Except Fault Url

/-- The text with every comma percent-encoded. -/
def encodeCommas (t : Text) : Text :=
  t.flatMap fun c => if c = ',' then ['%', '2', 'C'] else [c]

end Url

/-- A url that can stand in a comma separated list. -/
structure ListedUrl extends Url where
  comma_free : ',' ∉ text
  deriving DecidableEq, Repr

namespace Url

/-- `u` with its commas encoded, if reading leaves them encoded. -/
def listed (urls : Reader) (u : Url) : Except Fault ListedUrl :=
  if h : ',' ∉ u.text then .ok ⟨u, h⟩
  else
    match urls (encodeCommas u.text) with
    | .ok v => if h : ',' ∉ v.text then .ok ⟨v, h⟩ else .error .comma
    | .error _ => .error .comma

@[simp] theorem listed_of_comma_free (urls : Reader) (u : ListedUrl) :
    listed urls u.toUrl = .ok u := by
  simp [listed, u.comma_free]

@[simp] theorem encodeCommas_of_comma_free {t : Text} (h : ',' ∉ t) : encodeCommas t = t := by
  induction t with
  | nil => rfl
  | cons c t ih =>
    simp only [List.mem_cons, not_or] at h
    have ih := ih h.2
    simp only [encodeCommas] at ih
    simp [encodeCommas, Ne.symm h.1, ih]

end Url

end PluginForms
