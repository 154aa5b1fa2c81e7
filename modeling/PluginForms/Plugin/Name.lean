import PluginForms.Plugin.Error
import PluginForms.Plugin.Kind

/-!
Plugin names: a letter, then letters, digits and hyphens, all of them ASCII, no
more than `nameLimit` in all.
-/

namespace PluginForms

def isNameInitial (c : Char) : Bool := Text.isAsciiLetter c

def isNamePart (c : Char) : Bool := Text.isAsciiLetter c || Text.isDigit c || c == '-'

def isName : Text → Bool
  | [] => false
  | c :: cs => isNameInitial c && cs.all isNamePart && decide (cs.length < nameLimit)

/-- Why `t` is no name: its length if that is at fault, else its first character
that does not fit its place. -/
def nameFault (t : Text) : PluginError :=
  if t.length = 0 ∨ nameLimit < t.length then .invalidLength t
  else
    match t with
    | [] => .invalidLength t
    | c :: cs =>
      if !isNameInitial c then .invalidCharacter t c 0
      else
        match cs.dropWhile isNamePart with
        | [] => .invalidLength t
        | b :: _ => .invalidCharacter t b ((cs.takeWhile isNamePart).length + 1)

structure Name (K : Kind) where
  chars : Text
  valid : isName chars = true
  deriving DecidableEq

namespace Name

variable {K : Kind}

instance : LT (Name K) := ⟨fun a b => a.chars < b.chars⟩

def ofText (t : Text) : Except PluginError (Name K) :=
  if h : isName t = true then .ok ⟨t, h⟩ else .error (nameFault t)

@[simp] theorem ofText_chars (n : Name K) : ofText n.chars = .ok n := by
  simp [ofText, n.valid]

theorem chars_of_ofText {t : Text} {n : Name K} (h : ofText t = .ok n) : n.chars = t := by
  unfold ofText at h
  split at h
  · cases h; rfl
  · cases h

theorem ext_chars {a b : Name K} (h : a.chars = b.chars) : a = b := by
  cases a; cases b; cases h; rfl

end Name

/-- No plugin is known by the name `n`. -/
def PluginError.unknownName {K : Kind} (n : Name K) : PluginError := .unknown K.label n.chars

end PluginForms
