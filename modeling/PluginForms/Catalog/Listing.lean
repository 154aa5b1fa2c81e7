import PluginForms.Plugin.Name

/-!
What a provider says of one plugin: its name, by which it is selected, and its
url, by which it is known across providers. Written, the url stands first and
white space between the two.
-/

namespace PluginForms

/-- The url that `t` spells, with its commas encoded. -/
def Url.readListed (urls : Url.Reader) (t : Text) : Except PluginError ListedUrl := do
  let u ← (urls t).mapError (.invalidUrl t)
  (Url.listed urls u).mapError (.invalidUrl u.text)

structure Listing (K : Kind) where
  name : Name K
  url : ListedUrl
  deriving DecidableEq

namespace Listing

variable {K : Kind}

def ofUrl (urls : Url.Reader) (n : Name K) (u : Url) : Except PluginError (Listing K) := do
  return ⟨n, ← (Url.listed urls u).mapError (.invalidUrl u.text)⟩

def rename (l : Listing K) (n : Name K) : Listing K := { l with name := n }

def text (l : Listing K) : Text := l.url.text ++ ' ' :: l.name.chars

def ofText (urls : Url.Reader) (t : Text) : Except PluginError (Listing K) := do
  let body := Text.trimEnd (Text.trimStart t)
  match body.dropWhile (!Text.isBlank ·) with
  | [] => throw (.endOfText t .nameAfterUrl)
  | gap =>
    let url ← Url.readListed urls (body.takeWhile (!Text.isBlank ·))
    let name := Text.trimStart gap
    let start := t.length - (Text.trimStart t).length + (body.length - name.length)
    return ⟨← (Name.ofText name).mapError (·.within t start), url⟩

@[simp] theorem rename_name (l : Listing K) (n : Name K) : (l.rename n).name = n := rfl

@[simp] theorem rename_url (l : Listing K) (n : Name K) : (l.rename n).url = l.url := rfl

end Listing

end PluginForms
