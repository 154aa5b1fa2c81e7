import PluginForms.Plugin.Name

/-!
Names that are written into a program are checked on the UTF-8 bytes of their
text: the length first, then the first byte, then the others. Bytes that pass
are ASCII, so each is one character and the characters make a name.
-/

namespace PluginForms.Name

/-- The rule that the text of a constant breaks. -/
inductive ConstantFault
  | length
  | initial
  | part
  deriving DecidableEq, Repr

def ConstantFault.message : ConstantFault → Text
  | .length => "name length out of range".toList
  | .initial => "name must start with a letter".toList
  | .part => "name may only contain letters, digits and '-'".toList

def utf8 (t : Text) : List UInt8 := t.flatMap String.utf8EncodeChar

def isLetterByte (b : UInt8) : Bool :=
  (0x61 ≤ b && b ≤ 0x7a) || (0x41 ≤ b && b ≤ 0x5a)

def isPartByte (b : UInt8) : Bool :=
  isLetterByte b || (0x30 ≤ b && b ≤ 0x39) || b == 0x2d

/-- The first rule that the bytes break. -/
def bytesFault? : List UInt8 → Option ConstantFault
  | [] => some .length
  | b :: bs =>
    if nameLimit < bs.length + 1 then some .length
    else if !isLetterByte b then some .initial
    else if !bs.all isPartByte then some .part
    else none

theorem toNat_lt_of_isPartByte {b : UInt8} (h : isPartByte b = true) : b.toNat < 128 := by
  simp only [isPartByte, isLetterByte, Bool.or_eq_true, Bool.and_eq_true, decide_eq_true_eq,
    beq_iff_eq, UInt8.le_iff_toNat_le, ← UInt8.toNat_inj] at h
  simp at h
  omega

theorem utf8EncodeChar_of_ascii {c : Char} (h : c.toNat < 128) :
    String.utf8EncodeChar c = [UInt8.ofNat c.toNat] := by
  have hc : c.val.toNat ≤ 127 := Nat.le_of_lt_succ h
  simp only [String.utf8EncodeChar, hc, if_true]
  rfl

/-- A character past ASCII starts with a byte that is part of no name. -/
theorem exists_high_byte {c : Char} (h : ¬ c.toNat < 128) :
    ∃ b bs, String.utf8EncodeChar c = b :: bs ∧ isPartByte b = false := by
  have hc : ¬ c.val.toNat ≤ 127 := fun hle => h (Nat.lt_succ_of_le hle)
  have high {n : Nat} (hlow : 128 ≤ n) (hn : n < 256) : isPartByte (UInt8.ofNat n) = false := by
    refine Bool.eq_false_iff.mpr fun hp => ?_
    have := toNat_lt_of_isPartByte hp
    rw [UInt8.toNat_ofNat', Nat.mod_eq_of_lt (by simpa using hn)] at this
    omega
  unfold String.utf8EncodeChar
  simp only [hc, if_false]
  split
  · exact ⟨_, _, rfl, high (by omega) (by omega)⟩
  · split
    · exact ⟨_, _, rfl, high (by omega) (by omega)⟩
    · exact ⟨_, _, rfl, high (by omega) (by omega)⟩

/-- The bytes of an ASCII character are in the classes that the character is in. -/
theorem byte_classes {c : Char} (h : c.toNat < 128) :
    isLetterByte (UInt8.ofNat c.toNat) = isNameInitial c ∧
      isPartByte (UInt8.ofNat c.toNat) = isNamePart c := by
  have hmod : (UInt8.ofNat c.toNat).toNat = c.toNat := by
    rw [UInt8.toNat_ofNat', Nat.mod_eq_of_lt (by omega)]
  have hle (a b : Char) : a ≤ b ↔ a.toNat ≤ b.toNat := Iff.rfl
  have heq (a b : Char) : a = b ↔ a.toNat = b.toNat := ⟨fun h => h ▸ rfl, Char.toNat_inj.mp⟩
  refine ⟨Bool.eq_iff_iff.mpr ?_, Bool.eq_iff_iff.mpr ?_⟩ <;>
    simp only [isPartByte, isLetterByte, isNamePart, isNameInitial, Text.isAsciiLetter,
      Text.isDigit, Bool.or_eq_true, Bool.and_eq_true, decide_eq_true_eq, beq_iff_eq,
      UInt8.le_iff_toNat_le, ← UInt8.toNat_inj, hmod, hle, heq] <;>
    rfl

/-- Bytes that are all fit for names come from characters that are, one each. -/
theorem all_parts_of_bytes {t : Text} (h : (utf8 t).all isPartByte = true) :
    t.all isNamePart = true ∧ (utf8 t).length = t.length := by
  induction t with
  | nil => exact ⟨rfl, rfl⟩
  | cons c t ih =>
    by_cases hc : c.toNat < 128
    · have hcons : utf8 (c :: t) = UInt8.ofNat c.toNat :: utf8 t := by
        simp [utf8, utf8EncodeChar_of_ascii hc]
      rw [hcons, List.all_cons, Bool.and_eq_true] at h
      have := ih h.2
      rw [hcons]
      simp [this, (byte_classes hc).2 ▸ h.1]
    · obtain ⟨b, bs, hb, hpart⟩ := exists_high_byte hc
      simp [utf8, hb, hpart] at h

theorem isName_of_bytes {t : Text} (h : bytesFault? (utf8 t) = none) : isName t = true := by
  cases t with
  | nil => simp [utf8, bytesFault?] at h
  | cons c t =>
    by_cases hc : c.toNat < 128
    · have hcons : utf8 (c :: t) = UInt8.ofNat c.toNat :: utf8 t := by
        simp [utf8, utf8EncodeChar_of_ascii hc]
      simp only [hcons, bytesFault?, (byte_classes hc).1] at h
      repeat' split at h <;> try contradiction
      rename_i hlen hinit hparts
      obtain ⟨hall, hlength⟩ := all_parts_of_bytes (t := t) (by simpa using hparts)
      simp only [isName, hall, Bool.and_true, Bool.and_eq_true, decide_eq_true_eq]
      exact ⟨by simpa using hinit, by omega⟩
    · obtain ⟨b, bs, hb, hpart⟩ := exists_high_byte hc
      have hletter : isLetterByte b = false :=
        Bool.eq_false_iff.mpr fun hl => by simp [isPartByte, hl] at hpart
      simp only [utf8, List.flatMap_cons, hb, List.cons_append, bytesFault?, hletter] at h
      split at h <;> simp at h

def constant {K : Kind} (t : Text) : Except ConstantFault (Name K) :=
  match h : bytesFault? (utf8 t) with
  | some fault => .error fault
  | none => .ok ⟨t, isName_of_bytes h⟩

/-- A name in memory. A constant has its text in the program, any other name has a text of its
own. -/
structure Held (K : Kind) where
  name : Name K
  isConstant : Bool
  deriving DecidableEq

namespace Held

variable {K : Kind}

def constant (t : Text) : Except ConstantFault (Held K) := (Name.constant t).map (⟨·, true⟩)

/-- The name that is read from a text. It is a constant if the kind lists the text. -/
def ofText (t : Text) : Except PluginError (Held K) :=
  (Name.ofText t).map (⟨·, K.constants.contains t⟩)

end Held

end PluginForms.Name
