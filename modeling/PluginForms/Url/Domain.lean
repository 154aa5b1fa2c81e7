import PluginForms.Url.Domain.Direction
import PluginForms.Url.Domain.Joining
import PluginForms.Url.Domain.Mapping
import PluginForms.Url.Domain.Punycode

/-!
Domains in ASCII. A domain is folded and composed first, then every label is
checked; one that is not ASCII is written in Punycode after `xn--`. A label that
is given that way is read and has to be folded and composed already.
-/

namespace PluginForms.Url.Domain

def codePrefix : Text := "xn--".toList

/-- The length of the longest code that is read. -/
def maxCode : Nat := 2000

/-- The length of the longest text that is written as a code. -/
def maxText : Nat := 1000

/-- What a label says. A code has to end with a digit, so that it says more than ASCII. -/
def labelText? (label : Text) : Option Text :=
  if codePrefix.isPrefixOf label then
    let code := label.drop codePrefix.length
    if maxCode < code.length ∨ !code.all Text.isAscii ∨ label.getLast? = some '-' then none
    else (Punycode.decode? code).filter fun t => t.all isFolded && composedForm t == t
  else some label

def isLabel (t : Text) : Bool :=
  !t.head?.any isMark && joinersStand [] t &&
    (t.all Text.isAscii || t.length ≤ maxText)

def labelCode (t : Text) : Text :=
  if t.all Text.isAscii then t else codePrefix ++ Punycode.encode t

/-- The domain in ASCII, if every label of it is one. -/
def ascii? (domain : Text) : Option Text := do
  let folded ← domain.mapM folded?
  let labels ← (splitAtChar '.' (composedForm folded.flatten)).mapM labelText?
  if labels.all isLabel && (!labels.any isRightToLeft || labels.all keepsDirection) then
    some (['.'].intercalate (labels.map labelCode))
  else none

end PluginForms.Url.Domain
