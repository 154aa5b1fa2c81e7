import PluginForms.Plugin.Name

/-!
The classes of characters that the readers tell apart: blanks, digits, letters
and what may stand in a name. Reading takes the longest run of a class, so a text
that is a run followed by something else is split in one way only.
-/

namespace PluginForms

namespace Text

theorem isDigit_iff {c : Char} : isDigit c = true ↔ 48 ≤ c.toNat ∧ c.toNat ≤ 57 := by
  rw [isDigit, Bool.and_eq_true, decide_eq_true_eq, decide_eq_true_eq]
  exact Iff.rfl

theorem isAsciiLetter_iff {c : Char} :
    isAsciiLetter c = true ↔
      (97 ≤ c.toNat ∧ c.toNat ≤ 122) ∨ (65 ≤ c.toNat ∧ c.toNat ≤ 90) := by
  simp only [isAsciiLetter, Bool.or_eq_true, Bool.and_eq_true, decide_eq_true_eq]
  exact Iff.rfl

/-- No blank is an ASCII character past the space. -/
theorem le_or_ge_of_isBlank {c : Char} (h : isBlank c = true) :
    c.toNat ≤ 0x20 ∨ 0x80 ≤ c.toNat := by
  simp only [isBlank, Bool.or_eq_true, Bool.and_eq_true, decide_eq_true_eq, beq_iff_eq] at h
  omega

theorem isDigit_of_isBlank {c : Char} (h : isBlank c = true) : isDigit c = false := by
  refine Bool.eq_false_iff.mpr fun hd => ?_
  have hd := isDigit_iff.mp hd
  have hb := le_or_ge_of_isBlank h
  omega

theorem ne_of_isBlank {c d : Char} (h : isBlank c = true) (hd : isBlank d = false) : c ≠ d := by
  rintro rfl
  rw [h] at hd
  contradiction

end Text

theorem isNamePart_of_isNameInitial {c : Char} (h : isNameInitial c = true) :
    isNamePart c = true := by
  rw [isNamePart, show Text.isAsciiLetter c = true from h]
  rfl

theorem isNameInitial_of_isDigit {c : Char} (h : Text.isDigit c = true) :
    isNameInitial c = false := by
  refine Bool.eq_false_iff.mpr fun hl => ?_
  have hd := Text.isDigit_iff.mp h
  have hl := Text.isAsciiLetter_iff.mp hl
  omega

theorem isNamePart_of_isBlank {c : Char} (h : Text.isBlank c = true) : isNamePart c = false := by
  refine Bool.eq_false_iff.mpr fun hp => ?_
  have hb := Text.le_or_ge_of_isBlank h
  simp only [isNamePart, Bool.or_eq_true, beq_iff_eq] at hp
  rcases hp with (hl | hd) | rfl
  · have hl := Text.isAsciiLetter_iff.mp hl
    omega
  · have hd := Text.isDigit_iff.mp hd
    omega
  · exact absurd h (by decide)

theorem isNamePart_of_isDigit {c : Char} (h : Text.isDigit c = true) : isNamePart c = true := by
  rw [isNamePart, h, Bool.or_true]
  rfl

theorem isBlank_of_isNamePart {c : Char} (h : isNamePart c = true) : Text.isBlank c = false := by
  refine Bool.eq_false_iff.mpr fun hblank => ?_
  rw [isNamePart_of_isBlank hblank] at h
  contradiction

theorem ne_of_isNamePart {c d : Char} (h : isNamePart c = true) (hd : isNamePart d = false) :
    c ≠ d := by
  rintro rfl
  rw [h] at hd
  contradiction

/-- A letter and name characters after it, however many: a name but for its length. -/
def NameShaped : Text → Prop
  | [] => False
  | c :: cs => isNameInitial c = true ∧ cs.all isNamePart = true

namespace NameShaped

variable {t : Text} {c : Char}

theorem all_isNamePart (h : NameShaped t) : t.all isNamePart = true := by
  cases t with
  | nil => rfl
  | cons c cs =>
      obtain ⟨hc, hcs⟩ := h
      rw [List.all_cons, isNamePart_of_isNameInitial hc, hcs]
      rfl

theorem append (h : NameShaped t) (hc : isNamePart c = true) : NameShaped (t ++ [c]) := by
  cases t with
  | nil => exact h.elim
  | cons d cs =>
      obtain ⟨hd, hcs⟩ := h
      have hall : (cs ++ [c]).all isNamePart = true := by
        rw [List.all_append, hcs, List.all_cons, hc]
        rfl
      exact ⟨hd, hall⟩

/-- Only its length can keep it from being a name. -/
theorem nameLimit_lt (h : NameShaped t) (hname : isName t = false) : nameLimit < t.length := by
  cases t with
  | nil => exact h.elim
  | cons c cs =>
      obtain ⟨hc, hcs⟩ := h
      rw [isName, hc, hcs] at hname
      simp only [Bool.and_self, Bool.true_and, decide_eq_false_iff_not, Nat.not_lt] at hname
      exact Nat.lt_succ_of_le hname

theorem nameFault_eq (h : NameShaped t) (hname : isName t = false) :
    nameFault t = .invalidLength t := by
  unfold nameFault
  rw [if_pos (.inr (h.nameLimit_lt hname))]

end NameShaped

namespace Name

variable {K : Kind}

/-- A name is an initial followed by name characters. -/
theorem exists_cons (n : Name K) :
    ∃ c cs, n.chars = c :: cs ∧ isNameInitial c = true ∧ cs.all isNamePart = true := by
  obtain ⟨chars, valid⟩ := n
  cases chars with
  | nil => simp [isName] at valid
  | cons c cs =>
      simp only [isName, Bool.and_eq_true] at valid
      exact ⟨c, cs, rfl, valid.1.1, valid.1.2⟩

theorem all_isNamePart (n : Name K) : n.chars.all isNamePart = true := by
  obtain ⟨c, cs, hchars, hc, hcs⟩ := n.exists_cons
  rw [hchars, List.all_cons, isNamePart_of_isNameInitial hc, hcs]
  rfl

/-- A text is read as a name or its fault is reported. -/
theorem ofText_cases (t : Text) :
    (∃ h : isName t = true, (ofText t : Except PluginError (Name K)) = .ok ⟨t, h⟩) ∨
      isName t = false ∧ (ofText t : Except PluginError (Name K)) = .error (nameFault t) := by
  by_cases h : isName t = true
  · exact .inl ⟨h, dif_pos h⟩
  · exact .inr ⟨Bool.eq_false_iff.mpr h, dif_neg h⟩

end Name

/-! ### Runs -/

namespace Text

/-- The text does not go on with a character of the class `p`. -/
def Stops (p : Char → Bool) (t : Text) : Prop :=
  ∀ c u, t = c :: u → p c = false

/-- The text ends with a character outside of the class `p`. -/
def Breaks (p : Char → Bool) (t : Text) : Prop :=
  ∃ u c, t = u ++ [c] ∧ p c = false

/-- A run of the class `p` from the start of the text, and what `P` says of the run and
of the text after it. -/
def Run (p : Char → Bool) (P : Text → Text → Prop) (t : Text) : Prop :=
  ∃ run u : Text, run.all p = true ∧ t = run ++ u ∧ P run u

theorem run_cons {p : Char → Bool} {P : Text → Text → Prop} {c : Char} {t : Text} :
    Run p P (c :: t) ↔ (p c = true ∧ Run p (fun run u => P (c :: run) u) t) ∨ P [] (c :: t) := by
  constructor
  · rintro ⟨run, u, hrun, ht, hP⟩
    cases run with
    | nil =>
        obtain rfl : c :: t = u := ht
        exact .inr hP
    | cons d run =>
        rw [List.all_cons, Bool.and_eq_true] at hrun
        obtain ⟨rfl, rfl⟩ := List.cons.inj ht
        exact .inl ⟨hrun.1, run, u, hrun.2, rfl, hP⟩
  · rintro (⟨hc, run, u, hrun, rfl, hP⟩ | hP)
    · exact ⟨c :: run, u, by rw [List.all_cons, hc, hrun]; rfl, rfl, hP⟩
    · exact ⟨[], c :: t, rfl, rfl, hP⟩

theorem stops_nil {p : Char → Bool} : Stops p [] := by
  intro c u h
  contradiction

theorem stops_cons {p : Char → Bool} {c : Char} {t : Text} (h : p c = false) :
    Stops p (c :: t) := by
  intro d u hd
  obtain ⟨rfl, rfl⟩ := List.cons.inj hd
  exact h

theorem stops_of_isNameInitial {c : Char} {t : Text} (h : isNameInitial c = true) :
    Stops isBlank (c :: t) :=
  stops_cons (isBlank_of_isNamePart (isNamePart_of_isNameInitial h))

theorem Stops.append {p : Char → Bool} {t : Text} (h : Stops p t) (hne : t ≠ []) (u : Text) :
    Stops p (t ++ u) := by
  cases t with
  | nil => exact absurd rfl hne
  | cons c t => exact stops_cons (h c t rfl)

theorem breaks_append {p : Char → Bool} {c : Char} (t : Text) (h : p c = false) :
    Breaks p (t ++ [c]) :=
  ⟨t, c, rfl, h⟩

theorem Breaks.append_left {p : Char → Bool} {t : Text} (h : Breaks p t) (head : Text) :
    Breaks p (head ++ t) := by
  obtain ⟨u, c, rfl, hc⟩ := h
  rw [← List.append_assoc]
  exact breaks_append _ hc

theorem takeWhile_run {p : Char → Bool} {a t : Text} (ha : a.all p = true) (ht : Stops p t) :
    (a ++ t).takeWhile p = a := by
  induction a with
  | nil =>
      cases t with
      | nil => rfl
      | cons c t => rw [List.nil_append, List.takeWhile_cons, ht c t rfl]; rfl
  | cons c a ih =>
      rw [List.all_cons, Bool.and_eq_true] at ha
      rw [List.cons_append, List.takeWhile_cons, ha.1, if_pos rfl, ih ha.2]

theorem dropWhile_run {p : Char → Bool} {a t : Text} (ha : a.all p = true) (ht : Stops p t) :
    (a ++ t).dropWhile p = t := by
  have hboth := List.takeWhile_append_dropWhile (p := p) (l := a ++ t)
  rw [takeWhile_run ha ht] at hboth
  exact List.append_cancel_left hboth

theorem stops_dropWhile {p : Char → Bool} (t : Text) : Stops p (t.dropWhile p) := by
  intro c u h
  have hhead := List.head?_dropWhile_not p t
  rw [h] at hhead
  simpa using hhead

/-- The longest run of a class is determined by the text. -/
theorem run_unique {p : Char → Bool} {a a' t t' : Text} (ha : a.all p = true)
    (ha' : a'.all p = true) (ht : Stops p t) (ht' : Stops p t')
    (h : a ++ t = a' ++ t') : a = a' ∧ t = t' := by
  induction a generalizing a' with
  | nil =>
      cases a' with
      | nil => exact ⟨rfl, h⟩
      | cons c a' =>
          have hc : p c = false := ht c (a' ++ t') h
          rw [List.all_cons, hc] at ha'
          contradiction
  | cons c a ih =>
      rw [List.all_cons, Bool.and_eq_true] at ha
      cases a' with
      | nil =>
          have hc : p c = false := ht' c (a ++ t) h.symm
          rw [hc] at ha
          exact absurd ha.1 Bool.false_ne_true
      | cons c' a' =>
          rw [List.all_cons, Bool.and_eq_true] at ha'
          obtain ⟨rfl, htail⟩ := List.cons.inj h
          obtain ⟨rfl, rfl⟩ := ih ha.2 ha'.2 htail
          exact ⟨rfl, rfl⟩

end Text

end PluginForms
