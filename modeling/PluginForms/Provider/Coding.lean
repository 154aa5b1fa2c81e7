import PluginForms.Json.Decode
import PluginForms.Provider.Aliased

/-!
Whatever has a text form is a JSON string with that text, and reading the string
is reading the text. Settings are a record of two such parts, both of which may
be left out.
-/

namespace PluginForms

variable {K : Kind}

def Name.encode (n : Name K) : Json := .string n.chars

def Name.decode : Json.Decoder PluginError (Name K) := Json.textAs Name.ofText

def Selector.encode (s : Selector K) : Json := .string s.text

def Selector.decode : Json.Decoder PluginError (Selector K) := Json.textAs Selector.ofText

def Listing.encode (l : Listing K) : Json := .string l.text

def Listing.decode (urls : Url.Reader) : Json.Decoder PluginError (Listing K) :=
  Json.textAs (Listing.ofText urls)

def Catalog.encode (c : Catalog K) : Json := .string c.text

def Catalog.decode (urls : Url.Reader) : Json.Decoder PluginError (Catalog K) :=
  Json.textAs (Catalog.ofText urls)

def Alias.encode (a : Alias K) : Json := .string a.text

def Alias.decode (urls : Url.Reader) : Json.Decoder PluginError (Alias K) :=
  Json.textAs (Alias.ofText urls)

def AliasSet.encode (s : AliasSet K) : Json := .string s.text

def AliasSet.decode (urls : Url.Reader) : Json.Decoder PluginError (AliasSet K) :=
  Json.textAs (AliasSet.ofText urls)

namespace Settings

def encode (s : Settings K) : Json :=
  .ofMembers [("aliases", some s.aliases.encode),
    ("enabled", s.enabled.map fun names => .array (names.map (·.encode)))]

def shape : Json.Shape := .record "ProviderSettings".toList 2

def decodeEnabled : Json.Decoder PluginError (Option (List (Name K))) :=
  Json.optional (Json.listOf Name.decode)

def decode (urls : Url.Reader) : Json.Decoder PluginError (Settings K)
  | .object members => do
    let aliases ← Json.member members "aliases" (AliasSet.decode urls)
    let enabled ← Json.member members "enabled" decodeEnabled
    return ⟨aliases.getD .empty, enabled.join⟩
  | .array items => do
    let aliases ← Json.elementOr .empty items 0 (AliasSet.decode urls)
    let enabled ← Json.elementOr none items 1 decodeEnabled
    Json.atMost 2 items
    return ⟨aliases, enabled⟩
  | j => throw (.type j shape)

end Settings

end PluginForms
