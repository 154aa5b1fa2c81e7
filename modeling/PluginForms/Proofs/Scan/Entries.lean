import PluginForms.Proofs.Scan.Basic
import PluginForms.Proofs.Text.Entries

/-!
The loop that cuts a list into its entries. It goes once over the characters of the text, each
with its number and with the byte at which it begins, and remembers where the current entry begins
in both ways: the entry is cut out of the text by bytes, and what is said of it to others are
characters. A part of the text can be cut out only where characters begin, so nothing but the
loop itself keeps the bytes it remembers from being within a character. It never gets there, and
the entries are those of `Text.splitEntries`, which counts characters alone.
-/

namespace PluginForms.Scan

open Text (Nesting Quoting EntryScan isBlank withStarts)

/-! ### Bytes -/

/-- How many bytes the text has in UTF-8. -/
def byteLength : Text → Nat
  | [] => 0
  | c :: t => c.utf8Size + byteLength t

/-- The characters with the bytes at which they begin, the first one at `byte`. -/
def charIndices (byte : Nat) : Text → List (Nat × Char)
  | [] => []
  | c :: t => (byte, c) :: charIndices (byte + c.utf8Size) t

/-- The text before a byte and the text from it on, if a character begins there or the text
ends. -/
def cutAtByte : Nat → Text → Option (Text × Text)
  | 0, t => some ([], t)
  | _ + 1, [] => none
  | n + 1, c :: t =>
    if c.utf8Size ≤ n + 1 then (cutAtByte (n + 1 - c.utf8Size) t).map (·.map (c :: ·) id) else none

/-- The text from one byte up to another. -/
def byteSlice (t : Text) (first last : Nat) : Except Stop Text :=
  match (cutAtByte last t).bind fun cut => cutAtByte first cut.1 with
  | some (_, part) => .ok part
  | none => .error (.noSlice first last)

/-- The text from a byte on. -/
def byteSliceFrom (t : Text) (first : Nat) : Except Stop Text := byteSlice t first (byteLength t)

@[simp] theorem byteLength_nil : byteLength [] = 0 := rfl

@[simp] theorem byteLength_cons (c : Char) (t : Text) :
    byteLength (c :: t) = c.utf8Size + byteLength t := rfl

@[simp] theorem byteLength_append (t u : Text) :
    byteLength (t ++ u) = byteLength t + byteLength u := by
  induction t with
  | nil => simp
  | cons c t ih => simp [ih, Nat.add_assoc]

theorem cutAtByte_append (t u : Text) : cutAtByte (byteLength t) (t ++ u) = some (t, u) := by
  induction t with
  | nil => rw [byteLength_nil, List.nil_append, cutAtByte]
  | cons c t ih =>
      obtain ⟨size, hsize⟩ := Nat.exists_eq_succ_of_ne_zero (Nat.ne_of_gt c.utf8Size_pos)
      have hbytes : byteLength (c :: t) = size + byteLength t + 1 := by
        rw [byteLength_cons, hsize]
        omega
      have hrest : size + byteLength t + 1 - c.utf8Size = byteLength t := by omega
      rw [hbytes, List.cons_append, cutAtByte, if_pos (by omega), hrest, ih]
      rfl

theorem byteSlice_append (before part rest : Text) :
    byteSlice (before ++ part ++ rest) (byteLength before) (byteLength (before ++ part)) =
      .ok part := by
  rw [byteSlice, cutAtByte_append, Option.bind_some, cutAtByte_append]

theorem byteSliceFrom_append (before part : Text) :
    byteSliceFrom (before ++ part) (byteLength before) = .ok part := by
  have hslice := byteSlice_append before part []
  rwa [List.append_nil] at hslice

theorem map_snd_charIndices (byte : Nat) (t : Text) : (charIndices byte t).map (·.2) = t := by
  induction t generalizing byte with
  | nil => rfl
  | cons c t ih => rw [charIndices, List.map_cons, ih]

/-! ### The loop -/

/-- How far the loop is in parentheses, string literals and urls. -/
structure SplitFlags where
  depth : Nat := 0
  quoted : Bool := false
  escaped : Bool := false
  inUrl : Bool := false

/-- What the loop carries from one character to the next: its flags, the byte and the character
at which the current entry begins, and the entries before it. -/
structure Splitter where
  flags : SplitFlags := {}
  entryByte : Nat := 0
  entryChar : Nat := 0
  entries : List (Nat × Text) := []

/-- A character in a string literal. -/
def SplitFlags.quotedStep (f : SplitFlags) (c : Char) : SplitFlags :=
  if f.escaped then { f with escaped := false }
  else if c = '\\' then { f with escaped := true }
  else if c = '"' then { f with quoted := false }
  else f

namespace Splitter

/-- A character that is in no string literal and not passed over in a url. -/
def plainRound (t : Text) (s : Splitter) (position byte : Nat) (c : Char) : Except Stop Splitter :=
  let f := s.flags
  if c = '"' then .ok { s with flags := { f with quoted := true } }
  else if c = '(' then .ok { s with flags := { f with depth := f.depth + 1 } }
  else if c = ')' then .ok { s with flags := { f with depth := f.depth - 1 } }
  else if c = ':' ∧ f.depth = 0 then .ok { s with flags := { f with inUrl := true } }
  else if c = ',' ∧ f.depth = 0 then do
    let entry ← byteSlice t s.entryByte byte
    return ⟨{ f with inUrl := false }, byte + 1, position + 1, s.entries ++ [(s.entryChar, entry)]⟩
  else .ok s

/-- One character, which has a number and a byte among all `characters`. -/
def round (t : Text) (characters : List (Nat × Char)) (s : Splitter) (position byte : Nat)
    (c : Char) : Except Stop Splitter :=
  let f := s.flags
  if f.quoted then .ok { s with flags := f.quotedStep c }
  else if f.inUrl then
    let endsEntry := c == ',' && (characters[position + 1]?).all (isBlank ·.2)
    if isBlank c then plainRound t { s with flags := { f with inUrl := false } } position byte c
    else if !endsEntry then .ok s
    else plainRound t s position byte c
  else plainRound t s position byte c

/-- The entries that are done, and the current one up to the end of the text. -/
def finish (t : Text) (s : Splitter) : Except Stop (List (Nat × Text)) := do
  return s.entries ++ [(s.entryChar, ← byteSliceFrom t s.entryByte)]

/-- The loop over the `rest` of the characters, of which the first one has the number
`position`. -/
def rounds (t : Text) (characters : List (Nat × Char)) (position : Nat) (rest : List (Nat × Char))
    (s : Splitter) : Except Stop Splitter :=
  (rest.zipIdx position).foldlM (fun s x => round t characters s x.2 x.1.1 x.1.2) s

def split (t : Text) : Except Stop (List (Nat × Text)) := do
  let characters := charIndices 0 t
  finish t (← rounds t characters 0 characters {})

end Splitter

/-! ### What the flags mean -/

namespace SplitFlags

def quoting (f : SplitFlags) : Quoting :=
  if f.quoted then if f.escaped then .escaped else .inside else .outside

/-- Where the scan of an entry is. -/
def scan (f : SplitFlags) : EntryScan := ⟨⟨f.depth, f.quoting⟩, f.inUrl⟩

/-- The flags that there can be: in a string literal, in a url, which stands in no parentheses, or
in neither. -/
inductive Consistent : SplitFlags → Prop
  | literal (depth : Nat) (escaped : Bool) : Consistent ⟨depth, true, escaped, false⟩
  | url : Consistent ⟨0, false, false, true⟩
  | plain (depth : Nat) : Consistent ⟨depth, false, false, false⟩

variable {depth : Nat}

theorem scan_plain : scan ⟨depth, false, false, false⟩ = ⟨⟨depth, .outside⟩, false⟩ := rfl

theorem scan_url : scan ⟨0, false, false, true⟩ = EntryScan.url := rfl

theorem step_plain (depth : Nat) (c : Char) : (⟨⟨depth, .outside⟩, false⟩ : EntryScan).step c =
    ⟨(⟨depth, .outside⟩ : Nesting).step c, c == ':' && depth == 0⟩ := by
  have htop : (⟨⟨depth, .outside⟩, false⟩ : EntryScan).isTop = (depth == 0) := by
    rw [Bool.eq_iff_iff, EntryScan.isTop, beq_iff_eq, beq_iff_eq]
    exact ⟨congrArg Nesting.depth, fun h => by rw [h]; rfl⟩
  rw [EntryScan.step, htop]
  rfl

/-- In a string literal the scan follows the quoting. -/
theorem step_literal (depth : Nat) {quoting : Quoting} (h : quoting ≠ .outside) (c : Char) :
    (⟨⟨depth, quoting⟩, false⟩ : EntryScan).step c = ⟨⟨depth, quoting.step c⟩, false⟩ := by
  have htop : (⟨⟨depth, quoting⟩, false⟩ : EntryScan).isTop = false := by
    refine beq_eq_false_iff_ne.mpr fun hstart => h ?_
    exact congrArg Nesting.quoting hstart
  rw [EntryScan.step, htop, Bool.and_false, Nesting.step]
  simp [h]

theorem scan_quotedStep (depth : Nat) (escaped : Bool) (c : Char) :
    (quotedStep ⟨depth, true, escaped, false⟩ c).scan =
      (scan ⟨depth, true, escaped, false⟩).step c ∧
    (quotedStep ⟨depth, true, escaped, false⟩ c).Consistent := by
  have hescaped : Quoting.escaped ≠ .outside := by decide
  have hinside : Quoting.inside ≠ .outside := by decide
  cases escaped with
  | true => exact ⟨(step_literal depth hescaped c).symm, .literal depth false⟩
  | false =>
      have hstep : (scan ⟨depth, true, false, false⟩).step c =
          ⟨⟨depth, Quoting.inside.step c⟩, false⟩ := step_literal depth hinside c
      rw [hstep, quotedStep, Quoting.step]
      by_cases hbackslash : c = '\\'
      · simp only [hbackslash, if_true, Bool.false_eq_true, if_false]
        exact ⟨rfl, .literal depth true⟩
      · by_cases hquote : c = '"'
        · simp only [hquote, if_true, Bool.false_eq_true, if_false]
          exact ⟨rfl, .plain depth⟩
        · simp only [hbackslash, hquote, Bool.false_eq_true, if_false]
          exact ⟨rfl, .literal depth false⟩

end SplitFlags

namespace Splitter

open SplitFlags

variable {t rest : Text} {characters : List (Nat × Char)} {s : Splitter} {position byte : Nat}
  {c : Char}

/-- Outside of literals and urls each character but a separating comma changes the flags alone,
as it changes the scan. -/
theorem exists_plainRound {depth : Nat} (hs : s.flags = ⟨depth, false, false, false⟩)
    (hcomma : ¬ (c = ',' ∧ depth = 0)) :
    ∃ f, plainRound t s position byte c = .ok { s with flags := f } ∧
      f.scan = (scan ⟨depth, false, false, false⟩).step c ∧ f.Consistent := by
  rw [scan_plain, step_plain, plainRound, hs]
  by_cases hquote : c = '"'
  · subst hquote
    exact ⟨⟨depth, true, false, false⟩, rfl, rfl, .literal depth false⟩
  by_cases hopen : c = '('
  · subst hopen
    exact ⟨⟨depth + 1, false, false, false⟩, rfl, rfl, .plain _⟩
  by_cases hclose : c = ')'
  · subst hclose
    exact ⟨⟨depth - 1, false, false, false⟩, rfl, rfl, .plain _⟩
  rw [if_neg hquote, if_neg hopen, if_neg hclose, Nesting.step_of_ne hopen hclose hquote]
  by_cases hcolon : c = ':' ∧ depth = 0
  · obtain ⟨rfl, rfl⟩ := hcolon
    exact ⟨⟨0, false, false, true⟩, rfl, rfl, .url⟩
  · have hurl : (c == ':' && depth == 0) = false := by
      rw [← Bool.not_eq_true, Bool.and_eq_true, beq_iff_eq, beq_iff_eq]
      exact hcolon
    rw [if_neg hcolon, if_neg hcomma, hurl]
    exact ⟨⟨depth, false, false, false⟩, by rw [← hs], rfl, .plain depth⟩

/-- A separating comma cuts the current entry out of the text. -/
theorem plainRound_comma {entry : Text} (hdepth : s.flags.depth = 0)
    (hslice : byteSlice t s.entryByte byte = .ok entry) :
    plainRound t s position byte ',' = .ok ⟨{ s.flags with inUrl := false }, byte + 1,
      position + 1, s.entries ++ [(s.entryChar, entry)]⟩ := by
  rw [plainRound, hslice]
  simp [hdepth]

theorem endsUrl_iff (hnext : (characters[position + 1]?).map (·.2) = rest.head?) :
    (characters[position + 1]?).all (isBlank ·.2) = EntryScan.endsUrl rest := by
  cases rest with
  | nil =>
      rw [Option.map_eq_none_iff.mp hnext]
      rfl
  | cons b rest =>
      obtain ⟨⟨byte, d⟩, hd, rfl⟩ := Option.map_eq_some_iff.mp hnext
      rw [hd]
      rfl

theorem cuts_url : EntryScan.url.cuts rest = EntryScan.endsUrl rest := rfl

theorem step_url (c : Char) : EntryScan.url.step c = ⟨.start, !isBlank c⟩ := rfl

/-- In a url white space ends it, and nothing else matters but a comma that cuts. -/
theorem exists_urlRound {entryByte entryChar : Nat} {entries : List (Nat × Text)}
    (hnext : (characters[position + 1]?).map (·.2) = rest.head?)
    (hcut : ¬ (c = ',' ∧ EntryScan.url.cuts rest = true)) :
    ∃ f, round t characters ⟨⟨0, false, false, true⟩, entryByte, entryChar, entries⟩ position byte
        c = .ok ⟨f, entryByte, entryChar, entries⟩ ∧
      f.scan = EntryScan.url.step c ∧ f.Consistent := by
  rw [round]
  by_cases hblank : isBlank c = true
  · have hcomma : ¬ (c = ',' ∧ 0 = 0) := fun h => Text.ne_of_isBlank hblank (by decide) h.1
    obtain ⟨f, hround, hscan, hf⟩ : ∃ f,
        plainRound t ⟨{}, entryByte, entryChar, entries⟩ position byte c =
          .ok ⟨f, entryByte, entryChar, entries⟩ ∧
        f.scan = EntryScan.start.step c ∧ f.Consistent := exists_plainRound rfl hcomma
    have hplain : Text.isPlain c = true := Text.isPlain_of_class (by decide) hblank
    refine ⟨f, ?_, hscan.trans ?_, hf⟩
    · simp only [Bool.false_eq_true, if_false, if_true, hblank]
      exact hround
    · rw [EntryScan.step_of_isPlain hplain, step_url, hblank]
      rfl
  · have hends : (c == ',' && (characters[position + 1]?).all (isBlank ·.2)) = false := by
      rw [endsUrl_iff hnext, ← cuts_url, ← Bool.not_eq_true, Bool.and_eq_true, beq_iff_eq]
      exact hcut
    refine ⟨⟨0, false, false, true⟩, ?_, ?_, .url⟩
    · simp only [Bool.false_eq_true, if_false, if_true, hblank, hends, Bool.not_false]
    · rw [step_url, Bool.eq_false_iff.mpr hblank]
      rfl

/-- A round that cuts nothing follows the scan. -/
theorem exists_round (hs : s.flags.Consistent)
    (hnext : (characters[position + 1]?).map (·.2) = rest.head?)
    (hcut : ¬ (c = ',' ∧ s.flags.scan.cuts rest = true)) :
    ∃ f, round t characters s position byte c = .ok { s with flags := f } ∧
      f.scan = s.flags.scan.step c ∧ f.Consistent := by
  obtain ⟨flags, entryByte, entryChar, entries⟩ := s
  cases hs with
  | literal depth escaped => exact ⟨_, rfl, scan_quotedStep depth escaped c⟩
  | url => exact exists_urlRound hnext hcut
  | plain depth =>
      refine exists_plainRound rfl ?_
      rintro ⟨rfl, rfl⟩
      exact hcut ⟨rfl, rfl⟩

/-- Where the scan cuts, the loop does. -/
theorem round_of_cuts {entry : Text} (hs : s.flags.Consistent)
    (hnext : (characters[position + 1]?).map (·.2) = rest.head?)
    (hcuts : s.flags.scan.cuts rest = true)
    (hslice : byteSlice t s.entryByte byte = .ok entry) :
    round t characters s position byte ',' =
      .ok ⟨{}, byte + 1, position + 1, s.entries ++ [(s.entryChar, entry)]⟩ := by
  obtain ⟨flags, entryByte, entryChar, entries⟩ := s
  cases hs with
  | literal depth escaped => cases escaped <;> cases depth <;> contradiction
  | url =>
      have hends : (characters[position + 1]?).all (isBlank ·.2) = true := by
        rw [endsUrl_iff hnext, ← cuts_url]
        exact hcuts
      have hcomma : isBlank ',' = false := by decide
      rw [round]
      simp only [Bool.false_eq_true, if_false, if_true, hcomma, hends, beq_self_eq_true,
        Bool.and_self, Bool.not_true]
      exact plainRound_comma rfl hslice
  | plain depth =>
      obtain rfl : depth = 0 := by
        cases depth with
        | zero => rfl
        | succ depth => contradiction
      exact plainRound_comma rfl hslice

theorem rounds_cons (t : Text) (characters : List (Nat × Char)) (position byte : Nat) (c : Char)
    (rest : Text) (s : Splitter) :
    rounds t characters position (charIndices byte (c :: rest)) s =
      round t characters s position byte c >>=
        rounds t characters (position + 1) (charIndices (byte + c.utf8Size) rest) := rfl

/-- Passed are `before`, which ends with a cut, and `current` after it; `rest` follows. -/
structure Passed (t before current rest : Text) (position byte : Nat) (s : Splitter) : Prop where
  text : t = before ++ current ++ rest
  position : position = (before ++ current).length
  byte : byte = byteLength (before ++ current)
  flags : s.flags.Consistent
  entryByte : s.entryByte = byteLength before
  entryChar : s.entryChar = before.length

namespace Passed

variable {before current : Text}

theorem slice (h : Passed t before current rest position byte s) :
    byteSlice t s.entryByte byte = .ok current := by
  rw [h.entryByte, h.byte, h.text]
  exact byteSlice_append before current rest

theorem getElem?_next (h : Passed t before current (c :: rest) position byte s) :
    ((charIndices 0 t)[position + 1]?).map (·.2) = rest.head? := by
  have hlength : (before ++ current ++ [c]).length = position + 1 := by
    rw [List.length_append, h.position]
    rfl
  rw [← List.getElem?_map, map_snd_charIndices, ← List.head?_drop, h.text, List.append_cons,
    List.drop_left' hlength]

/-- The current entry gets one character longer. -/
theorem pass (h : Passed t before current (c :: rest) position byte s) {f : SplitFlags}
    (hf : f.Consistent) : Passed t before (current ++ [c]) rest (position + 1)
      (byte + c.utf8Size) { s with flags := f } where
  text := by simp [h.text]
  position := by simp [h.position, Nat.add_assoc]
  byte := by simp [h.byte, Nat.add_assoc]
  flags := hf
  entryByte := h.entryByte
  entryChar := h.entryChar

/-- A new entry begins behind a comma. -/
theorem cut (h : Passed t before current (',' :: rest) position byte s)
    (entries : List (Nat × Text)) : Passed t (before ++ current ++ [',']) [] rest (position + 1)
      (byte + 1) ⟨{}, byte + 1, position + 1, entries⟩ where
  text := by simp [h.text]
  position := by simp [h.position, Nat.add_assoc]
  byte := by rw [List.append_nil, byteLength_append, ← h.byte]; rfl
  flags := .plain 0
  entryByte := by rw [byteLength_append, ← h.byte]; rfl
  entryChar := by simp [h.position, Nat.add_assoc]

end Passed

/-- From the middle of an entry on, the loop gives the entries before it and those that the scan
gives, the first of which is the current one with what was passed of it. -/
theorem rounds_bind_finish {before current : Text}
    (h : Passed t before current rest position byte s) :
    (rounds t (charIndices 0 t) position (charIndices byte rest) s >>= finish t) =
      .ok (s.entries ++ withStarts before.length
        ((current ++ (s.flags.scan.entries rest).1) :: (s.flags.scan.entries rest).2)) := by
  induction rest generalizing before current position byte s with
  | nil =>
      have hslice : byteSliceFrom t s.entryByte = .ok current := by
        rw [h.entryByte, h.text, List.append_nil]
        exact byteSliceFrom_append before current
      change finish t s = _
      rw [finish, hslice, h.entryChar, EntryScan.entries, List.append_nil]
      rfl
  | cons c rest ih =>
      rw [rounds_cons]
      by_cases hcut : c = ',' ∧ s.flags.scan.cuts rest = true
      · obtain ⟨rfl, hcuts⟩ := hcut
        have hround := round_of_cuts h.flags h.getElem?_next hcuts h.slice
        have hlater := ih (h.cut (s.entries ++ [(s.entryChar, current)]))
        have hlength : (before ++ current ++ [',']).length =
            before.length + current.length + 1 := by
          simp [Nat.add_assoc]
        rw [hlength] at hlater
        rw [hround, EntryScan.entries, if_pos ⟨rfl, hcuts⟩, List.append_nil]
        refine hlater.trans (congrArg Except.ok ?_)
        rw [List.append_assoc, h.entryChar]
        rfl
      · obtain ⟨f, hround, hscan, hf⟩ := exists_round h.flags h.getElem?_next hcut
        have hlater := ih (h.pass hf)
        rw [hround, EntryScan.entries_cons_of_not_cuts hcut, ← hscan, List.append_cons]
        exact hlater

/-- The loop that goes by bytes comes to its end, cuts out parts of the text only, and gives the
entries that the scan gives, at the same characters. -/
theorem split_eq (t : Text) : split t = .ok (Text.splitEntries t) := by
  have h : Passed t [] [] t 0 0 {} := ⟨rfl, rfl, rfl, .plain 0, rfl, rfl⟩
  exact rounds_bind_finish h

/-- The second entry begins at character 11, which is byte 13; the comma in the first one stands in
a url. -/
example : split "urn:é,ü ab, ß".toList =
    .ok [(0, "urn:é,ü ab".toList), (11, " ß".toList)] := rfl

end Splitter

end PluginForms.Scan
