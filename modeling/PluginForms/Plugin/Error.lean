import PluginForms.Text.Quoted
import PluginForms.Url.Basic

/-!
Everything that can go wrong with plugin names, selectors, aliases and
providers. Each constructor is a cause; `message` words it. Errors about text
hold the complete text and the position of the character at fault, and `within`
moves such an error from a part of a text to the whole.
-/

namespace PluginForms

/-- What a reader was waiting for when the text ended. -/
inductive Expected
  | parameter
  | digit
  | escapedCharacter
  | closingQuote
  | separator
  | closingParenthesis
  | alias
  | nameAfterUrl
  deriving DecidableEq, Repr

def Expected.text : Expected → Text
  | .parameter => "parameter".toList
  | .digit => "digit".toList
  | .escapedCharacter => "escaped character".toList
  | .closingQuote => "closing '\"'".toList
  | .separator => "',' or ')'".toList
  | .closingParenthesis => "')'".toList
  | .alias => "alias".toList
  | .nameAfterUrl => "name after url".toList

/-- Ways in which names meet that have to be kept apart. -/
inductive Clash
  | duplicate (label : Text) (names : List Text)
  | selfRename (name : Text)
  | aliasRenamed (names : List Text)
  | notInjective (label : Text) (names : List Text)
  deriving DecidableEq, Repr

def Clash.message : Clash → Text
  | .duplicate label names =>
    "Duplicate ".toList ++ label ++ " names: ".toList ++ Text.commaJoin names
  | .selfRename name =>
    "Alias ".toList ++ name ++ " must not rename itself".toList
  | .aliasRenamed names =>
    "Alias names also renamed by another alias: ".toList ++ Text.commaJoin names
  | .notInjective label names =>
    label ++ " mapping is not injective: ".toList ++ Text.commaJoin names

inductive PluginError
  | invalidCharacter (text : Text) (character : Char) (position : Nat)
  | invalidLength (text : Text)
  | endOfText (text : Text) (expected : Expected)
  | nestingTooDeep (text : Text) (position : Nat)
  | invalidUrl (text : Text) (fault : Url.Fault)
  | unknown (label name : Text)
  | clash (fault : Clash)
  | invalidParameters (name reason : Text)
  deriving DecidableEq, Repr

/-- How long a name may be. -/
def nameLimit : Nat := 255

/-- How many parameter lists may be open at once, the selector's own included. -/
def nestingLimit : Nat := 64

namespace PluginError

def message : PluginError → Text
  | invalidCharacter text c position =>
    "Invalid character ".toList ++ Text.quotedChar c ++ " at ".toList ++ Text.ofNat position ++
      " in ".toList ++ Text.quoted text
  | invalidLength text =>
    "Length ".toList ++ Text.ofNat text.length ++ " of ".toList ++ Text.quoted text ++
      " not between 1 and ".toList ++ Text.ofNat nameLimit
  | endOfText text expected =>
    "End of text, expected ".toList ++ expected.text ++ " in ".toList ++ Text.quoted text
  | nestingTooDeep text position =>
    "Nesting deeper than ".toList ++ Text.ofNat nestingLimit ++ " levels at ".toList ++
      Text.ofNat position ++ " in ".toList ++ Text.quoted text
  | invalidUrl text fault =>
    "Invalid url ".toList ++ Text.quoted text ++ ": ".toList ++ fault.message
  | unknown label name => "Unknown ".toList ++ label ++ " ".toList ++ name
  | clash fault => fault.message
  | invalidParameters name reason =>
    "Invalid parameters for ".toList ++ name ++ ": ".toList ++ reason

/-- The error about a part of `text` that starts at `start`, as one about `text`. -/
def within (text : Text) (start : Nat) : PluginError → PluginError
  | invalidCharacter _ c position => invalidCharacter text c (start + position)
  | nestingTooDeep _ position => nestingTooDeep text (start + position)
  | endOfText _ expected => endOfText text expected
  | e => e

/-- Complains about the first character of `rest`, the unread part of `text`. -/
def atRest (text rest : Text) (expected : Expected) : PluginError :=
  match rest with
  | c :: _ => invalidCharacter text c (text.length - rest.length)
  | [] => endOfText text expected

end PluginError

end PluginForms
