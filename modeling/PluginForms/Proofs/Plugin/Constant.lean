import PluginForms.Plugin.Name.Constant
import PluginForms.Proofs.Text.Classes

/-!
Constant names and names that are read. A constant is checked on the bytes of its text and a
name that is read on the characters, but a text that passes either check has ASCII characters
only, so there is a byte for each character and both checks are of the same length and classes.
-/

namespace PluginForms

/-- A letter of the English alphabet. -/
def IsLetter (c : Char) : Prop := ('a' ≤ c ∧ c ≤ 'z') ∨ ('A' ≤ c ∧ c ≤ 'Z')

/-- What may stand after the first character of a name. -/
def IsNamePart (c : Char) : Prop := IsLetter c ∨ ('0' ≤ c ∧ c ≤ '9') ∨ c = '-'

/-- No more than 255 characters, of which the first is a letter and the others are letters, digits
and hyphens. -/
structure NameSpelled (t : Text) : Prop where
  length : 1 ≤ t.length ∧ t.length ≤ 255
  initial : ∃ c, t.head? = some c ∧ IsLetter c
  parts : ∀ c ∈ t.tail, IsNamePart c

theorem isNameInitial_iff {c : Char} : isNameInitial c = true ↔ IsLetter c := by
  simp [isNameInitial, Text.isAsciiLetter, IsLetter]

theorem isNamePart_iff {c : Char} : isNamePart c = true ↔ IsNamePart c := by
  simp [isNamePart, Text.isAsciiLetter, Text.isDigit, IsNamePart, IsLetter, or_assoc]

theorem isName_iff {t : Text} : isName t = true ↔ NameSpelled t := by
  cases t with
  | nil => exact iff_of_false nofun fun h => absurd h.length.1 (Nat.not_succ_le_zero 0)
  | cons c cs =>
      rw [isName, Bool.and_eq_true, Bool.and_eq_true, isNameInitial_iff, List.all_eq_true,
        decide_eq_true_eq]
      constructor
      · rintro ⟨⟨hc, hcs⟩, hlength⟩
        refine ⟨⟨Nat.succ_pos _, hlength⟩, ⟨c, rfl, hc⟩, fun d hd => ?_⟩
        exact isNamePart_iff.mp (hcs d hd)
      · rintro ⟨⟨-, hlength⟩, ⟨d, hd, hletter⟩, hparts⟩
        obtain rfl := Option.some.inj hd
        exact ⟨⟨hletter, fun d hd => isNamePart_iff.mpr (hparts d hd)⟩, hlength⟩

namespace Name

variable {K : Kind} {t : Text} {n : Name K}

theorem ofText_eq_ok_iff : ofText t = .ok n ↔ n.chars = t := by
  refine ⟨chars_of_ofText, ?_⟩
  rintro rfl
  exact ofText_chars n

theorem exists_ofText_iff : (∃ n : Name K, ofText t = .ok n) ↔ NameSpelled t := by
  rw [← isName_iff]
  constructor
  · rintro ⟨n, hn⟩
    rw [← ofText_eq_ok_iff.mp hn]
    exact n.valid
  · intro h
    exact ⟨⟨t, h⟩, ofText_eq_ok_iff.mpr rfl⟩

/-! ### On bytes -/

theorem lt_of_isNamePart {c : Char} (h : isNamePart c = true) : c.toNat < 128 := by
  rw [isNamePart, Bool.or_eq_true, Bool.or_eq_true, Text.isAsciiLetter_iff, Text.isDigit_iff,
    beq_iff_eq] at h
  obtain (hletter | hdigit) | rfl := h
  · omega
  · omega
  · decide

theorem utf8_cons_of_ascii {c : Char} (h : c.toNat < 128) (t : Text) :
    utf8 (c :: t) = UInt8.ofNat c.toNat :: utf8 t := by
  rw [utf8, List.flatMap_cons, utf8EncodeChar_of_ascii h]
  rfl

/-- Name characters have one byte each, which is in the class that the character is in. -/
theorem utf8_of_parts (h : t.all isNamePart = true) :
    (utf8 t).length = t.length ∧ (utf8 t).all isPartByte = true := by
  induction t with
  | nil => exact ⟨rfl, rfl⟩
  | cons c t ih =>
      rw [List.all_cons, Bool.and_eq_true] at h
      have hc := lt_of_isNamePart h.1
      obtain ⟨hlength, hall⟩ := ih h.2
      rw [utf8_cons_of_ascii hc, List.length_cons, hlength, List.all_cons, (byte_classes hc).2,
        h.1, hall]
      exact ⟨rfl, rfl⟩

/-- The bytes of a name break no rule of constants. -/
theorem bytesFault?_of_isName (h : isName t = true) : bytesFault? (utf8 t) = none := by
  cases t with
  | nil => contradiction
  | cons c t =>
      rw [isName, Bool.and_eq_true, Bool.and_eq_true, decide_eq_true_eq] at h
      obtain ⟨⟨hinitial, hparts⟩, hlength⟩ := h
      have hc := lt_of_isNamePart (isNamePart_of_isNameInitial hinitial)
      obtain ⟨hbytes, hall⟩ := utf8_of_parts hparts
      have hshort : ¬ nameLimit < (utf8 t).length + 1 := by omega
      rw [utf8_cons_of_ascii hc, bytesFault?, if_neg hshort, (byte_classes hc).1, hinitial, hall]
      rfl

theorem constant_eq_ok_iff : constant t = .ok n ↔ n.chars = t := by
  constructor
  · intro h
    rw [constant] at h
    split at h
    · contradiction
    · exact congrArg chars (Except.ok.inj h).symm
  · rintro rfl
    have hnone := bytesFault?_of_isName n.valid
    rw [constant]
    split
    · rename_i hfault
      rw [hnone] at hfault
      contradiction
    · rfl

/-- A name that is read is the constant of the same text just if its kind lists that text. In any
case there is such a constant, and it has the same name. -/
theorem held_constant_of_ofText {h : Held K} (hread : Held.ofText t = .ok h) :
    ∃ c : Held K, Held.constant t = .ok c ∧ c.name = h.name ∧ (h = c ↔ t ∈ K.constants) := by
  rw [Held.ofText] at hread
  cases hname : (ofText t : Except PluginError (Name K)) with
  | error e =>
      rw [hname] at hread
      contradiction
  | ok n =>
      rw [hname] at hread
      obtain rfl := Except.ok.inj hread
      have hconstant := constant_eq_ok_iff.mpr (ofText_eq_ok_iff.mp hname)
      refine ⟨⟨n, true⟩, by rw [Held.constant, hconstant]; rfl, rfl, ?_⟩
      rw [Held.mk.injEq, eq_self, true_and, List.contains_iff_mem]

/-- The check of constants on bytes and that of other names on characters let the same texts
pass, for the same name: those of 1 to 255 characters that are a letter followed by letters,
digits and hyphens. -/
theorem constants_and_read_names_agree (t : Text) :
    (∀ n : Name K, constant t = .ok n ↔ ofText t = .ok n) ∧
    ((∃ n : Name K, constant t = .ok n) ↔ NameSpelled t) ∧
    ((∃ n : Name K, ofText t = .ok n) ↔ NameSpelled t) := by
  have hsame (n : Name K) : constant t = .ok n ↔ ofText t = .ok n :=
    constant_eq_ok_iff.trans ofText_eq_ok_iff.symm
  refine ⟨hsame, ?_, exists_ofText_iff⟩
  rw [← exists_ofText_iff (K := K)]
  exact exists_congr hsame

end Name

end PluginForms
