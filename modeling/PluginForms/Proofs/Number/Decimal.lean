import PluginForms.Number.Binary64
import PluginForms.Proofs.Selector.Unambiguous

/-!
Numbers as they are commonly written: a sign, digits with a point among or beside them, an
exponent, or a word for what is no finite number. Few texts of that form are literals of a
parameter list, but every literal is such a text and stands for the same number in both.
-/

namespace PluginForms.Binary64

/-- The sign in front, minus or not, and the text after it. -/
def splitSign : Text → Bool × Text
  | '-' :: t => (true, t)
  | '+' :: t => (false, t)
  | t => (false, t)

/-- The number after an `e`, or 0 where nothing stands. -/
def exponent? : Text → Option Int
  | [] => some 0
  | c :: t =>
    let (negative, digits) := splitSign t
    if Text.lowerAscii c ≠ 'e' ∨ digits = [] ∨ digits.all Text.isDigit = false then none
    else some (if negative then -digitsValue digits else digitsValue digits)

/-- The digits after a point, if there is one, and the text after them. -/
def splitFraction : Text → Text × Text
  | '.' :: t => (t.takeWhile Text.isDigit, t.dropWhile Text.isDigit)
  | t => ([], t)

def decimal? (negative : Bool) (t : Text) : Option Binary64 :=
  let whole := t.takeWhile Text.isDigit
  let (fraction, rest) := splitFraction (t.dropWhile Text.isDigit)
  if whole ++ fraction = [] then none
  else
    (exponent? rest).map fun e =>
      ofRatio negative (digitsValue (whole ++ fraction) * Nat.pow 10 e.toNat)
        (Nat.pow 10 (fraction.length + (-e).toNat))

/-- What is no finite number, by its bits without the sign. -/
def special? (word : Text) : Option Nat :=
  if word = "inf".toList ∨ word = "infinity".toList then some infinityBits
  else if word = "nan".toList then some (infinityBits + Nat.pow 2 51)
  else none

/-- The number that a text stands for, if it is written as one. -/
def ofText? (t : Text) : Option Binary64 :=
  let (negative, unsigned) := splitSign t
  match special? (unsigned.map Text.lowerAscii) with
  | some bits => some ⟨UInt64.ofNat (bits + if negative then Nat.pow 2 63 else 0)⟩
  | none => decimal? negative unsigned

example : ofText? "+12.50E-1".toList = some (ofLiteral "1.25".toList) := by decide

/-! ### Literals -/

open Grammar (Number Digits)
open Text (Stops)

variable {c : Char}

theorem ne_of_isDigit {d : Char} (h : Text.isDigit c = true) (hd : Text.isDigit d = false) :
    c ≠ d := by
  rintro rfl
  rw [h] at hd
  contradiction

theorem lowerAscii_of_isDigit (h : Text.isDigit c = true) : Text.lowerAscii c = c := by
  have hc := Text.isDigit_iff.mp h
  refine if_neg fun hcapital => ?_
  have hA : 65 ≤ c.toNat := hcapital.1
  omega

/-- The words for what is no finite number begin with a letter. -/
theorem special?_of_isDigit (h : Text.isDigit c = true) (t : Text) :
    special? ((c :: t).map Text.lowerAscii) = none := by
  have hi : c ≠ 'i' := ne_of_isDigit h (by decide)
  have hn : c ≠ 'n' := ne_of_isDigit h (by decide)
  simp [special?, lowerAscii_of_isDigit h, hi, hn]

theorem splitSign_text (n : Number) :
    splitSign n.text = (n.negative, n.whole.text ++ Digits.fraction n.fraction) := by
  obtain ⟨negative, whole, fraction⟩ := n
  cases negative with
  | true => rfl
  | false =>
      obtain ⟨c, u, hwhole, hc⟩ := whole.exists_cons
      have hhyphen : c ≠ '-' := ne_of_isDigit hc (by decide)
      have hplus : c ≠ '+' := ne_of_isDigit hc (by decide)
      simp [Number.text, Number.sign, hwhole, splitSign, hhyphen, hplus]

/-- The digits of the fraction of a literal, if it has one. -/
def fractionDigits (fraction : Option Digits) : Text := fraction.elim [] Digits.text

theorem splitFraction_fraction (fraction : Option Digits) :
    splitFraction (Digits.fraction fraction) = (fractionDigits fraction, []) := by
  cases fraction with
  | none => rfl
  | some d =>
      have hrun : (d.text ++ []).takeWhile Text.isDigit = d.text ∧
          (d.text ++ []).dropWhile Text.isDigit = [] :=
        ⟨Text.takeWhile_run d.digits Text.stops_nil, Text.dropWhile_run d.digits Text.stops_nil⟩
      rw [List.append_nil] at hrun
      rw [Digits.fraction, splitFraction, hrun.1, hrun.2]
      rfl

/-- A literal begins with a hyphen if it is negative. -/
theorem head?_text (n : Number) : (n.text.head? == some '-') = n.negative := by
  obtain ⟨negative, whole, fraction⟩ := n
  cases negative with
  | true => rfl
  | false =>
      obtain ⟨c, u, hwhole, hc⟩ := whole.exists_cons
      have hhyphen : c ≠ '-' := ne_of_isDigit hc (by decide)
      simp [Number.text, Number.sign, hwhole, hhyphen]

theorem unsigned_text (n : Number) : (if n.negative = true then n.text.drop 1 else n.text) =
    n.whole.text ++ Digits.fraction n.fraction := by
  obtain ⟨negative, whole, fraction⟩ := n
  cases negative <;> rfl

/-- Without its sign a literal is digits up to its point or its end, and digits after the
point. -/
theorem ofLiteral_text (n : Number) : ofLiteral n.text =
    ofRatio n.negative (digitsValue (n.whole.text ++ fractionDigits n.fraction))
      (Nat.pow 10 (fractionDigits n.fraction).length) := by
  have hall : n.whole.text.all (· != '.') = true := by
    rw [List.all_eq_true]
    intro c hc
    rw [bne_iff_ne]
    exact ne_of_isDigit (List.all_eq_true.mp n.whole.digits c hc) (by decide)
  have hstops : Stops (· != '.') (Digits.fraction n.fraction) := by
    cases n.fraction with
    | none => exact Text.stops_nil
    | some d => exact Text.stops_cons rfl
  have hdrop : (Digits.fraction n.fraction).drop 1 = fractionDigits n.fraction := by
    cases n.fraction <;> rfl
  simp only [ofLiteral, head?_text, unsigned_text, Text.takeWhile_run hall hstops,
    Text.dropWhile_run hall hstops, hdrop]

/-- Every literal is a number, and the one that it is read as. -/
theorem ofText?_text (n : Number) : ofText? n.text = some (ofLiteral n.text) := by
  have hstops : Stops Text.isDigit (Digits.fraction n.fraction) := by
    cases n.fraction with
    | none => exact Text.stops_nil
    | some d => exact Text.stops_cons (by decide)
  obtain ⟨c, u, hwhole, hc⟩ := n.whole.exists_cons
  have hne : n.whole.text ++ fractionDigits n.fraction ≠ [] :=
    List.append_ne_nil_of_left_ne_nil n.whole.nonempty _
  have hspecial : special? ((n.whole.text ++ Digits.fraction n.fraction).map Text.lowerAscii) =
      none := by
    rw [hwhole]
    exact special?_of_isDigit hc _
  simp only [ofText?, splitSign_text, hspecial, decimal?, splitFraction_fraction,
    Text.takeWhile_run n.whole.digits hstops, Text.dropWhile_run n.whole.digits hstops,
    if_neg hne, ofLiteral_text, exponent?, Option.map_some]
  simp

end PluginForms.Binary64
