import Mathlib.Data.List.TakeWhile
import PluginForms.Proofs.Text.Classes

/-!
Words and gaps. An entry of a list is words with white space around and between them, so the
ends of a text and its first and last words are all that its readers need to know of them.
-/

namespace PluginForms.Text

variable {gap gap' word t : Text}

/-- Characters without white space, at least one. -/
structure IsWord (t : Text) : Prop where
  ne_nil : t ≠ []
  unbroken : t.all (!isBlank ·) = true

/-- White space between words, at least one character of it. -/
structure IsGap (t : Text) : Prop where
  ne_nil : t ≠ []
  blank : t.all isBlank = true

theorem isGap_space : IsGap [' '] := ⟨List.cons_ne_nil _ _, by decide⟩

theorem IsWord.stops (h : IsWord word) (t : Text) : Stops isBlank (word ++ t) := by
  cases word with
  | nil => exact absurd rfl h.ne_nil
  | cons c word =>
      have hunbroken := h.unbroken
      rw [List.all_cons, Bool.and_eq_true, Bool.not_eq_true'] at hunbroken
      exact stops_cons hunbroken.1

theorem IsWord.begins (h : IsWord word) : Stops isBlank word := by
  rw [← List.append_nil word]
  exact h.stops []

theorem IsWord.breaks (h : IsWord word) : Breaks isBlank word := by
  obtain ⟨u, c, rfl⟩ := (List.eq_nil_or_concat word).resolve_left h.ne_nil
  have hunbroken := h.unbroken
  simp only [List.concat_eq_append, List.all_append, List.all_cons, Bool.and_eq_true,
    Bool.not_eq_true'] at hunbroken ⊢
  exact breaks_append u hunbroken.2.1

/-- A gap ends the word before it. -/
theorem IsGap.stops (h : IsGap gap) (t : Text) : Stops (!isBlank ·) (gap ++ t) := by
  cases gap with
  | nil => exact absurd rfl h.ne_nil
  | cons c gap =>
      have hblank := h.blank
      rw [List.all_cons, Bool.and_eq_true] at hblank
      refine stops_cons ?_
      rw [hblank.1]
      rfl

theorem stops_of_blank (hgap : gap.all isBlank = true) : Stops (!isBlank ·) gap := by
  by_cases hnil : gap = []
  · rw [hnil]
    exact stops_nil
  · have hstops := IsGap.stops ⟨hnil, hgap⟩ []
    rw [List.append_nil] at hstops
    exact hstops

theorem stops_isNamePart (h : Stops (!isBlank ·) t) : Stops isNamePart t := by
  rintro c u rfl
  have hblank : (!isBlank c) = false := h c u rfl
  exact isNamePart_of_isBlank (by simpa using hblank)

/-- There is a gap where one word has ended and another one begins. -/
theorem isGap_of_stops (hblank : gap.all isBlank = true) (hends : Stops (!isBlank ·) (gap ++ t))
    (hbegins : Stops isBlank t) (hne : t ≠ []) : IsGap gap := by
  refine ⟨?_, hblank⟩
  rintro rfl
  cases t with
  | nil => exact hne rfl
  | cons c t =>
      have hblank : (!isBlank c) = false := hends c t rfl
      rw [hbegins c t rfl] at hblank
      contradiction

/-- A text that does not begin with white space begins with a word. -/
theorem isWord_takeWhile (hbegins : Stops isBlank t) (hne : t ≠ []) :
    IsWord (t.takeWhile (!isBlank ·)) := by
  refine ⟨?_, List.all_takeWhile⟩
  cases t with
  | nil => exact absurd rfl hne
  | cons c t =>
      rw [List.takeWhile_cons, hbegins c t rfl]
      exact List.cons_ne_nil _ _

theorem isWord_name {K : Kind} (n : Name K) : IsWord n.chars := by
  obtain ⟨c, cs, hchars, -, -⟩ := n.exists_cons
  refine ⟨by rw [hchars]; exact List.cons_ne_nil c cs, List.all_eq_true.mpr fun d hd => ?_⟩
  rw [isBlank_of_isNamePart (List.all_eq_true.mp n.all_isNamePart d hd)]
  rfl

theorem IsWord.allBlank_eq_false (h : IsWord word) (t u : Text) :
    allBlank (t ++ (word ++ u)) = false := by
  cases word with
  | nil => exact absurd rfl h.ne_nil
  | cons c word =>
      have hunbroken := h.unbroken
      rw [List.all_cons, Bool.and_eq_true, Bool.not_eq_true'] at hunbroken
      simp [allBlank, hunbroken.1]

/-! ### The ends of a text -/

theorem exists_trimStart (t : Text) :
    ∃ gap : Text, t = gap ++ trimStart t ∧ gap.all isBlank = true :=
  ⟨t.takeWhile isBlank, List.takeWhile_append_dropWhile.symm, List.all_takeWhile⟩

theorem exists_trimEnd (t : Text) :
    ∃ gap : Text, t = trimEnd t ++ gap ∧ gap.all isBlank = true := by
  obtain ⟨gap, hgap, hblank⟩ := exists_trimStart t.reverse
  refine ⟨gap.reverse, ?_, by rw [List.all_reverse, hblank]⟩
  calc t = t.reverse.reverse := t.reverse_reverse.symm
    _ = (gap ++ trimStart t.reverse).reverse := by rw [← hgap]
    _ = trimEnd t ++ gap.reverse := List.reverse_append

theorem stops_trimStart (t : Text) : Stops isBlank (trimStart t) := stops_dropWhile t

theorem trimStart_append (hgap : gap.all isBlank = true) (ht : Stops isBlank t) :
    trimStart (gap ++ t) = t :=
  dropWhile_run hgap ht

theorem trimStart_eq_nil_iff : trimStart t = [] ↔ t.all isBlank = true := by
  rw [trimStart, List.dropWhile_eq_nil_iff, List.all_eq_true]

theorem trimEnd_append (ht : Breaks isBlank t) (hgap : gap.all isBlank = true) :
    trimEnd (t ++ gap) = t := by
  obtain ⟨u, c, rfl, hc⟩ := ht
  have hdrop : (gap.reverse ++ (c :: u.reverse)).dropWhile isBlank = c :: u.reverse :=
    dropWhile_run (by rw [List.all_reverse, hgap]) (stops_cons hc)
  have hreverse : (u ++ [c] ++ gap).reverse = gap.reverse ++ (c :: u.reverse) := by simp
  rw [trimEnd, hreverse, hdrop, List.reverse_cons, List.reverse_reverse]

/-- Nothing to trim at the end. -/
theorem eq_nil_of_trimEnd (ht : Breaks isBlank t) (hgap : gap.all isBlank = true)
    (h : trimEnd (t ++ gap) = t ++ gap) : gap = [] := by
  rw [trimEnd_append ht hgap] at h
  exact List.self_eq_append_right.mp h

/-! ### The first and the last word -/

def firstWord (t : Text) : Text := (trimStart t).takeWhile (!isBlank ·)

def lastWord (t : Text) : Text := (firstWord t.reverse).reverse

theorem firstWord_append (hgap : gap.all isBlank = true) (hword : IsWord word)
    (ht : Stops (!isBlank ·) t) : firstWord (gap ++ (word ++ t)) = word := by
  rw [firstWord, trimStart_append hgap (hword.stops t)]
  exact takeWhile_run hword.unbroken ht

theorem IsWord.reverse (h : IsWord word) : IsWord word.reverse :=
  ⟨List.reverse_ne_nil_iff.mpr h.ne_nil, by rw [List.all_reverse, h.unbroken]⟩

theorem IsGap.reverse (h : IsGap gap) : IsGap gap.reverse :=
  ⟨List.reverse_ne_nil_iff.mpr h.ne_nil, by rw [List.all_reverse, h.blank]⟩

theorem lastWord_append (hgap' : IsGap gap') (hword : IsWord word)
    (hgap : gap.all isBlank = true) : lastWord (t ++ gap' ++ word ++ gap) = word := by
  have hfirst : firstWord (gap.reverse ++ (word.reverse ++ (gap'.reverse ++ t.reverse))) =
      word.reverse :=
    firstWord_append (by rw [List.all_reverse, hgap]) hword.reverse (hgap'.reverse.stops _)
  rw [lastWord]
  simp only [List.reverse_append, hfirst, List.reverse_reverse]

end PluginForms.Text
