import PluginForms.Text.Basic

/-!
Schemes. Urls of the web and of files have rules of their own; to all other
schemes the same rules apply.
-/

namespace PluginForms.Url

inductive SchemeClass
  | web
  | file
  | other
  deriving DecidableEq

namespace SchemeClass

def of (scheme : Text) : SchemeClass :=
  if scheme = "file".toList then .file
  else if ["http", "https", "ws", "wss", "ftp"].any (·.toList == scheme) then .web
  else .other

/-- A backslash is as good as a slash, except in other urls. -/
def isSlash (k : SchemeClass) (c : Char) : Bool :=
  c == '/' || (k != .other && c == '\\')

end SchemeClass

/-- The number after the host that the scheme implies. -/
def impliedNumber? (scheme : Text) : Option Nat :=
  if scheme = "http".toList ∨ scheme = "ws".toList then some 80
  else if scheme = "https".toList ∨ scheme = "wss".toList then some 443
  else if scheme = "ftp".toList then some 21
  else none

/-- The scheme that `t` spells, in lower case. -/
def scheme? (t : Text) : Option Text :=
  let isPart (c : Char) := Text.isAsciiLetter c || Text.isDigit c || "+-.".toList.contains c
  match t with
  | [] => none
  | c :: rest =>
    if Text.isAsciiLetter c && rest.all isPart then some (t.map Text.lowerAscii) else none

end PluginForms.Url
