import PluginForms.Form.Error
import PluginForms.Json.Decode
import PluginForms.Plugin.Name

/-!
Names of fields and of forms. A reference identifies a field within its form; it
may be any short text without white space, control characters and commas. The
name of a form follows the rules of plugin names.
-/

namespace PluginForms

def Reference.refuses (c : Char) : Bool := Text.isBlank c || Text.isControl c || c == ','

def isReference (t : Text) : Bool :=
  !t.isEmpty && decide (t.length ≤ referenceLimit) && !t.any Reference.refuses

structure Reference where
  chars : Text
  valid : isReference chars = true
  deriving DecidableEq

namespace Reference

/-- Why `t` is no reference: its length if that is at fault, else a character. -/
def fault (t : Text) : ReferenceFault :=
  if t.length = 0 ∨ referenceLimit < t.length then .length t
  else
    match t.find? refuses with
    | some c => .character t c
    | none => .length t

def ofText (t : Text) : Except FormError Reference :=
  if h : isReference t = true then .ok ⟨t, h⟩ else .error (.invalidReference (fault t))

@[simp] theorem ofText_chars (r : Reference) : ofText r.chars = .ok r := by
  simp [ofText, r.valid]

def encode (r : Reference) : Json := .string r.chars

def decode : Json.Decoder FormError Reference := Json.textAs ofText

end Reference

structure FormName where
  chars : Text
  valid : isName chars = true

instance : DecidableEq FormName := fun a b =>
  decidable_of_iff (a.chars = b.chars) (by cases a; cases b; simp)

namespace FormName

def ofText (t : Text) : Except PluginError FormName :=
  if h : isName t = true then .ok ⟨t, h⟩ else .error (nameFault t)

@[simp] theorem ofText_chars (n : FormName) : ofText n.chars = .ok n := by
  simp [ofText, n.valid]

def encode (n : FormName) : Json := .string n.chars

def decode : Json.Decoder FormError FormName :=
  (Json.textAs ofText).mapReason .plugin

end FormName

end PluginForms
