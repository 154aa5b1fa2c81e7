import PluginForms.Text.Basic

/-!
Punycode writes a text in ASCII. Its ASCII characters come first, then a hyphen
if there are any, then where the other characters have to be inserted, in the
order of their code points.

An insertion is a number: how many places are passed since the one before, when
each code point has a place between any two characters. Its digits come lowest
first, with a base that depends on the bias, and the bias on the size of the
numbers before.
-/

namespace PluginForms.Url.Domain.Punycode

/-! ### Numbers -/

def digit (n : Nat) : Char :=
  if n < 26 then Char.ofNat ('a'.toNat + n) else Char.ofNat ('0'.toNat + (n - 26))

def digitValue? (c : Char) : Option Nat :=
  if 'a' ≤ c ∧ c ≤ 'z' then some (c.toNat - 'a'.toNat)
  else if 'A' ≤ c ∧ c ≤ 'Z' then some (c.toNat - 'A'.toNat)
  else if '0' ≤ c ∧ c ≤ '9' then some (c.toNat - '0'.toNat + 26)
  else none

/-- A digit below this one is the last of its number. -/
def threshold (bias place : Nat) : Nat := min 26 (max 1 (36 * (place + 1) - bias))

theorem threshold_pos (bias place : Nat) : 0 < threshold bias place := by
  simp only [threshold]
  omega

def number (bias place n : Nat) : Text :=
  let t := threshold bias place
  if n < t then [digit n]
  else digit (t + (n - t) % (36 - t)) :: number bias (place + 1) ((n - t) / (36 - t))
termination_by n
decreasing_by
  have := threshold_pos bias place
  exact Nat.lt_of_le_of_lt (Nat.div_le_self _ _) (by omega)

def damped (n : Nat) : Nat :=
  if 455 < n then 36 + damped (n / 35) else 36 * n / (n + 38)

/-- The bias after the number `n` has brought the text to the length `size`. -/
def nextBias (n size : Nat) (isFirst : Bool) : Nat :=
  let n := if isFirst then n / 700 else n / 2
  damped (n + n / size)

/-! ### Writing -/

structure Writing where
  text : Text
  /-- How many characters are written. -/
  count : Nat
  /-- How many places are passed since the last insertion. -/
  passed : Nat := 0
  bias : Nat := 72
  isFirst : Bool := true

/-- Passes the character `c` of the text while the code point `n` is inserted. -/
def Writing.pass (n : Nat) (w : Writing) (c : Char) : Writing :=
  if c.toNat < n then { w with passed := w.passed + 1 }
  else if c.toNat = n then
    { text := w.text ++ number w.bias 0 w.passed
      count := w.count + 1
      bias := nextBias w.passed (w.count + 1) w.isFirst
      isFirst := false }
  else w

/-- Inserts the code points from `n` on that are given in increasing order. -/
def Writing.insertAll (t : Text) : Nat → List Nat → Writing → Writing
  | _, [], w => w
  | n, m :: ms, w =>
    let w := { w with passed := w.passed + (m - n) * (w.count + 1) }
    let w := t.foldl (Writing.pass m) w
    insertAll t (m + 1) ms { w with passed := w.passed + 1 }

def encode (t : Text) : Text :=
  let basic := t.filter Text.isAscii
  let others := ((t.filter (!Text.isAscii ·)).map Char.toNat).mergeSort.eraseDups
  let start : Writing :=
    { text := if basic.isEmpty then [] else basic ++ ['-'], count := basic.length }
  (Writing.insertAll t 0x80 others start).text

/-! ### Reading -/

structure Reading where
  text : Text
  /-- The code point inserted last. -/
  code : Nat := 0x80
  /-- Where the next one would be inserted. -/
  index : Nat := 0
  bias : Nat := 72
  /-- The digits read of the next number: how many, the value of one more and of all. -/
  place : Nat := 0
  weight : Nat := 1
  passed : Nat := 0

/-- Inserts a character once the number is read. -/
def Reading.insert? (r : Reading) : Option Reading :=
  let size := r.text.length + 1
  let code := r.code + (r.index + r.passed) / size
  let index := (r.index + r.passed) % size
  if code.isValidChar then
    some
      { text := r.text.insertIdx index (Char.ofNat code)
        code := code
        index := index + 1
        bias := nextBias r.passed size (r.index == 0) }
  else none

def Reading.digit? (r : Reading) (c : Char) : Option Reading := do
  let d ← digitValue? c
  let t := threshold r.bias r.place
  let passed := r.passed + d * r.weight
  if d < t then insert? { r with passed := passed }
  else
    return { r with passed := passed, place := r.place + 1, weight := r.weight * (36 - t) }

/-- The text that `code` stands for. It is no code if a hyphen comes first. -/
def decode? (code : Text) : Option Text := do
  let digits := (code.reverse.takeWhile (· != '-')).reverse
  let basic := code.take (code.length - digits.length - 1)
  if code.contains '-' ∧ basic.isEmpty ∨ !basic.all Text.isAscii then none
  else
    let r ← digits.foldlM Reading.digit? { text := basic }
    if r.place = 0 then some r.text else none

end PluginForms.Url.Domain.Punycode
