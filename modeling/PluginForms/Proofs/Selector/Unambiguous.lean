import PluginForms.Proofs.Selector.Grammar
import PluginForms.Proofs.Text.Classes

/-!
No text has two derivations. A parameter is always followed by a comma or a closing
parenthesis, with white space before it at most; such a text ends every run of
name characters, digits and string characters, so what was derived before it can
be read off the text, from left to right.
-/

namespace PluginForms.Grammar

open Text (Stops)

variable {K : Kind}

/-- What may follow a parameter. -/
def Follows (t : Text) : Prop :=
  ∃ (gap : Blanks) (c : Char) (u : Text), t = gap.text ++ c :: u ∧ (c = ',' ∨ c = ')')

/-- A class without blanks, commas and closing parentheses ends before what may follow
a parameter. -/
theorem Follows.stops {t : Text} (h : Follows t) (p : Char → Bool)
    (hblank : ∀ c, Text.isBlank c = true → p c = false)
    (hcomma : p ',' = false) (hclose : p ')' = false) : Stops p t := by
  obtain ⟨⟨gap, hgap⟩, d, u, rfl, hd⟩ := h
  cases gap with
  | nil =>
      apply Text.stops_cons
      rcases hd with rfl | rfl
      · exact hcomma
      · exact hclose
  | cons b gap =>
      rw [List.all_cons, Bool.and_eq_true] at hgap
      exact Text.stops_cons (hblank b hgap.1)

theorem Follows.stops_isNamePart {t : Text} (h : Follows t) : Stops isNamePart t :=
  h.stops isNamePart (fun _ => isNamePart_of_isBlank) (by decide) (by decide)

theorem Follows.stops_isDigit {t : Text} (h : Follows t) : Stops Text.isDigit t :=
  h.stops Text.isDigit (fun _ => Text.isDigit_of_isBlank) (by decide) (by decide)

/-- The rest of a list may follow its parameters. -/
theorem ListRest.follows (r : ListRest K) (t : Text) : Follows (r.text ++ t) := by
  cases r with
  | done gap => exact ⟨gap, ')', t, by simp [ListRest.text], .inr rfl⟩
  | more gap gap' next rest =>
      exact ⟨gap, ',', gap'.text ++ (next.text ++ rest.text) ++ t, by simp [ListRest.text],
        .inl rfl⟩

/-! ### Tokens -/

theorem Blanks.eq_of_stops {gap gap' : Blanks} {t t' : Text}
    (h : gap.text ++ t = gap'.text ++ t') (ht : Stops Text.isBlank t)
    (ht' : Stops Text.isBlank t') : gap = gap' ∧ t = t' := by
  obtain ⟨gap, hgap⟩ := gap
  obtain ⟨gap', hgap'⟩ := gap'
  obtain ⟨rfl, rfl⟩ := Text.run_unique hgap hgap' ht ht' h
  exact ⟨rfl, rfl⟩

theorem Blanks.eq_of_text {gap gap' : Blanks} {t t' : Text} {c c' : Char}
    (h : gap.text ++ c :: t = gap'.text ++ c' :: t')
    (hc : Text.isBlank c = false) (hc' : Text.isBlank c' = false) :
    gap = gap' ∧ c = c' ∧ t = t' := by
  obtain ⟨rfl, htail⟩ := Blanks.eq_of_stops h (Text.stops_cons hc) (Text.stops_cons hc')
  exact ⟨rfl, List.cons.inj htail⟩

theorem Digits.eq_of_text {d d' : Digits} {t t' : Text} (h : d.text ++ t = d'.text ++ t')
    (ht : Stops Text.isDigit t) (ht' : Stops Text.isDigit t') : d = d' ∧ t = t' := by
  obtain ⟨d, hd, hne⟩ := d
  obtain ⟨d', hd', hne'⟩ := d'
  obtain ⟨rfl, rfl⟩ := Text.run_unique hd hd' ht ht' h
  exact ⟨rfl, rfl⟩

theorem Digits.exists_cons (d : Digits) : ∃ c u, d.text = c :: u ∧ Text.isDigit c = true := by
  obtain ⟨text, digits, nonempty⟩ := d
  obtain ⟨c, u, rfl⟩ := List.exists_cons_of_ne_nil nonempty
  rw [List.all_cons, Bool.and_eq_true] at digits
  exact ⟨c, u, rfl, digits.1⟩

/-- The digits after a point end the digits before it. -/
theorem Digits.stops_fraction (f : Option Digits) {t : Text} (ht : Follows t) :
    Stops Text.isDigit (Digits.fraction f ++ t) := by
  cases f with
  | none => exact ht.stops_isDigit
  | some d => exact Text.stops_cons (by decide)

theorem Digits.fraction_eq_of_text {f f' : Option Digits} {t t' : Text}
    (h : Digits.fraction f ++ t = Digits.fraction f' ++ t') (ht : Follows t) (ht' : Follows t') :
    f = f' ∧ t = t' := by
  have point (d : Digits) {u v : Text} (hu : Follows u) : u ≠ Digits.fraction (some d) ++ v := by
    intro hpoint
    have := hu.stops (· == '.') (fun c hc => by
      refine Bool.eq_false_iff.mpr fun heq => ?_
      rw [beq_iff_eq.mp heq] at hc
      exact absurd hc (by decide)) (by decide) (by decide)
    exact absurd (this '.' (d.text ++ v) hpoint) (by decide)
  cases f with
  | none =>
      cases f' with
      | none => exact ⟨rfl, h⟩
      | some d' => exact absurd h (point d' ht)
  | some d =>
      cases f' with
      | none => exact absurd h.symm (point d ht')
      | some d' =>
          obtain ⟨rfl, rfl⟩ :=
            Digits.eq_of_text (List.cons.inj h).2 ht.stops_isDigit ht'.stops_isDigit
          exact ⟨rfl, rfl⟩

theorem Number.sign_eq_of_text {b b' : Bool} {d d' : Digits} {t t' : Text}
    (h : Number.sign b ++ (d.text ++ t) = Number.sign b' ++ (d'.text ++ t')) :
    b = b' ∧ d.text ++ t = d'.text ++ t' := by
  have hyphen (d : Digits) (u v : Text) : '-' :: u ≠ d.text ++ v := by
    intro heq
    obtain ⟨c, w, hd, hc⟩ := d.exists_cons
    rw [hd, List.cons_append] at heq
    rw [← (List.cons.inj heq).1] at hc
    exact absurd hc (by decide)
  cases b with
  | false =>
      cases b' with
      | false => exact ⟨rfl, h⟩
      | true => exact absurd h.symm (hyphen d _ t)
  | true =>
      cases b' with
      | false => exact absurd h (hyphen d' _ t')
      | true => exact ⟨rfl, (List.cons.inj h).2⟩

theorem Number.eq_of_text {n n' : Number} {t t' : Text} (h : n.text ++ t = n'.text ++ t')
    (ht : Follows t) (ht' : Follows t') : n = n' ∧ t = t' := by
  obtain ⟨negative, whole, fraction⟩ := n
  obtain ⟨negative', whole', fraction'⟩ := n'
  simp only [Number.text, List.append_assoc] at h
  obtain ⟨rfl, hwhole⟩ := Number.sign_eq_of_text h
  obtain ⟨rfl, hfraction⟩ := Digits.eq_of_text hwhole
    (Digits.stops_fraction fraction ht) (Digits.stops_fraction fraction' ht')
  obtain ⟨rfl, rfl⟩ := Digits.fraction_eq_of_text hfraction ht ht'
  exact ⟨rfl, rfl⟩

theorem Escape.mark_injective {e e' : Escape} (h : e.mark = e'.mark) : e = e' := by
  cases e <;> cases e' <;> first | rfl | exact absurd h (by decide)

/-- A string ends at the first quote that no backslash stands before. -/
theorem Piece.eq_of_text {ps ps' : List Piece} {t t' : Text}
    (h : ps.flatMap Piece.text ++ '"' :: t = ps'.flatMap Piece.text ++ '"' :: t') :
    ps = ps' ∧ t = t' := by
  have closes (p : Piece) {u v : Text} : '"' :: u ≠ p.text ++ v := by
    intro heq
    cases p with
    | raw c plain => exact plain.1 (List.cons.inj heq).1.symm
    | escape e => exact absurd (List.cons.inj heq).1 (by decide)
  -- both strings lose their first piece, until one of them meets its closing quote
  induction ps generalizing ps' with
  | nil =>
      cases ps' with
      | nil => exact ⟨rfl, (List.cons.inj h).2⟩
      | cons p' ps' =>
          rw [List.flatMap_cons, List.append_assoc] at h
          exact absurd h (closes p')
  | cons p ps ih =>
      cases ps' with
      | nil =>
          rw [List.flatMap_cons, List.append_assoc] at h
          exact absurd h.symm (closes p)
      | cons p' ps' =>
          simp only [List.flatMap_cons, List.append_assoc] at h
          cases p with
          | raw c plain =>
              cases p' with
              | raw c' plain' =>
                  obtain ⟨rfl, htail⟩ := List.cons.inj h
                  obtain ⟨rfl, rfl⟩ := ih htail
                  exact ⟨rfl, rfl⟩
              | escape e' => exact absurd (List.cons.inj h).1 plain.2
          | escape e =>
              cases p' with
              | raw c' plain' => exact absurd (List.cons.inj h).1.symm plain'.2
              | escape e' =>
                  obtain ⟨hmark, htail⟩ := List.cons.inj (List.cons.inj h).2
                  obtain rfl := Escape.mark_injective hmark
                  obtain ⟨rfl, rfl⟩ := ih htail
                  exact ⟨rfl, rfl⟩

/-! ### Parameters -/

/-- The sorts of parameters that are told apart by their first character. -/
inductive Opening
  | number
  | string
  | name
  deriving DecidableEq

def Opening.of? (c : Char) : Option Opening :=
  if c = '"' then some .string
  else if isNameInitial c then some .name
  else if c = '-' ∨ Text.isDigit c then some .number
  else none

def Parameter.opening : Parameter K → Opening
  | .number _ => .number
  | .string _ => .string
  | .bare _ => .name
  | .call _ _ _ => .name

theorem Opening.of?_isNameInitial {c : Char} (h : isNameInitial c = true) :
    Opening.of? c = some .name := by
  have hquote : c ≠ '"' := by
    rintro rfl
    exact absurd h (by decide)
  rw [Opening.of?, if_neg hquote, if_pos h]

theorem Opening.of?_isDigit {c : Char} (h : Text.isDigit c = true) :
    Opening.of? c = some .number := by
  have hquote : c ≠ '"' := by
    rintro rfl
    exact absurd h (by decide)
  have hletter : ¬ isNameInitial c = true := by
    rw [isNameInitial_of_isDigit h]
    exact Bool.false_ne_true
  rw [Opening.of?, if_neg hquote, if_neg hletter, if_pos (.inr h)]

theorem Opening.isBlank_of {c : Char} {o : Opening} (h : Opening.of? c = some o) :
    Text.isBlank c = false := by
  refine Bool.eq_false_iff.mpr fun hb => ?_
  have hpart := isNamePart_of_isBlank hb
  have hdigit := Text.isDigit_of_isBlank hb
  have hletter : isNameInitial c = false :=
    Bool.eq_false_iff.mpr fun hl => by simp [isNamePart_of_isNameInitial hl] at hpart
  by_cases hquote : c = '"'
  · subst c
    exact absurd hb (by decide)
  · by_cases hhyphen : c = '-'
    · subst c
      exact absurd hb (by decide)
    · simp [Opening.of?, hquote, hhyphen, hletter, hdigit] at h

theorem Number.exists_cons (n : Number) :
    ∃ c u, n.text = c :: u ∧ (c = '-' ∨ Text.isDigit c = true) := by
  obtain ⟨negative, whole, fraction⟩ := n
  cases negative with
  | true => exact ⟨'-', _, rfl, .inl rfl⟩
  | false =>
      obtain ⟨c, u, hwhole, hc⟩ := whole.exists_cons
      exact ⟨c, u ++ Digits.fraction fraction, by simp [Number.text, Number.sign, hwhole], .inr hc⟩

theorem Parameter.exists_cons (p : Parameter K) :
    ∃ c u, p.text = c :: u ∧ Opening.of? c = some p.opening := by
  cases p with
  | number n =>
      obtain ⟨c, u, hn, hc⟩ := n.exists_cons
      refine ⟨c, u, by rw [Parameter.text, hn], ?_⟩
      rcases hc with rfl | hc
      · rfl
      · exact Opening.of?_isDigit hc
  | string pieces => exact ⟨'"', _, by rw [Parameter.text], rfl⟩
  | bare n =>
      obtain ⟨c, cs, hn, hc, -⟩ := n.exists_cons
      exact ⟨c, cs, by rw [Parameter.text, hn], Opening.of?_isNameInitial hc⟩
  | call n gap l =>
      obtain ⟨c, cs, hn, hc, -⟩ := n.exists_cons
      exact ⟨c, _, by rw [Parameter.text, hn, List.cons_append], Opening.of?_isNameInitial hc⟩

/-- The first character of a parameter says what sort of parameter it is. -/
theorem Parameter.opening_of_text {p : Parameter K} {c : Char} {t u : Text}
    (h : c :: t = p.text ++ u) : Opening.of? c = some p.opening := by
  obtain ⟨d, v, hp, hd⟩ := p.exists_cons
  rw [hp, List.cons_append] at h
  rw [(List.cons.inj h).1]
  exact hd

theorem Parameter.opening_eq_of_text {p p' : Parameter K} {t t' : Text}
    (h : p.text ++ t = p'.text ++ t') : p.opening = p'.opening := by
  obtain ⟨c, u, hp, hc⟩ := p.exists_cons
  rw [hp, List.cons_append] at h
  rw [Parameter.opening_of_text h] at hc
  exact (Option.some.inj hc).symm

/-- White space before a parameter goes as far as the parameter. -/
theorem Parameter.gap_eq_of_text {p p' : Parameter K} {gap gap' : Blanks} {t t' : Text}
    (h : gap.text ++ (p.text ++ t) = gap'.text ++ (p'.text ++ t')) :
    gap = gap' ∧ p.text ++ t = p'.text ++ t' := by
  obtain ⟨c, u, hp, hc⟩ := p.exists_cons
  obtain ⟨c', u', hp', hc'⟩ := p'.exists_cons
  rw [hp, hp', List.cons_append, List.cons_append] at h ⊢
  obtain ⟨rfl, rfl, htail⟩ :=
    Blanks.eq_of_text h (Opening.isBlank_of hc) (Opening.isBlank_of hc')
  exact ⟨rfl, by rw [htail]⟩

/-- No parameter starts with a character that is the start of nothing. -/
theorem Parameter.ne_of_opening {p : Parameter K} {gap gap' : Blanks} {c : Char} {t t' : Text}
    (hc : Opening.of? c = none) (hblank : Text.isBlank c = false) :
    gap.text ++ (p.text ++ t) ≠ gap'.text ++ c :: t' := by
  intro h
  obtain ⟨d, u, hp, hd⟩ := p.exists_cons
  rw [hp, List.cons_append] at h
  obtain ⟨-, rfl, -⟩ := Blanks.eq_of_text h (Opening.isBlank_of hd) hblank
  rw [hc] at hd
  contradiction

theorem Name.eq_of_text {n n' : Name K} {t t' : Text} (h : n.chars ++ t = n'.chars ++ t')
    (ht : Stops isNamePart t) (ht' : Stops isNamePart t') : n = n' ∧ t = t' := by
  obtain ⟨hchars, rfl⟩ := Text.run_unique n.all_isNamePart n'.all_isNamePart ht ht' h
  exact ⟨Name.ext_chars hchars, rfl⟩

/-- A list ends the name before it. -/
theorem Blanks.stops_isNamePart (gap : Blanks) (t : Text) :
    Stops isNamePart (gap.text ++ '(' :: t) := by
  obtain ⟨gap, hgap⟩ := gap
  cases gap with
  | nil => exact Text.stops_cons (by decide)
  | cons b gap =>
      rw [List.all_cons, Bool.and_eq_true] at hgap
      exact Text.stops_cons (isNamePart_of_isBlank hgap.1)

/-- What follows a parameter opens no list. -/
theorem Follows.ne_list {t : Text} (h : Follows t) (gap : Blanks) (u : Text) :
    t ≠ gap.text ++ '(' :: u := by
  obtain ⟨gap', c, v, rfl, hc⟩ := h
  intro heq
  have hblank : Text.isBlank c = false := by rcases hc with rfl | rfl <;> decide
  obtain ⟨-, rfl, -⟩ := Blanks.eq_of_text heq hblank (by decide)
  rcases hc with hc | hc <;> exact absurd hc (by decide)

mutual

theorem Parameter.eq_of_text (p p' : Parameter K) {t t' : Text}
    (h : p.text ++ t = p'.text ++ t') (ht : Follows t) (ht' : Follows t') : p = p' ∧ t = t' := by
  have hopening := Parameter.opening_eq_of_text h
  -- the pairs of different sorts are left out, `hopening` excludes them
  match p, p' with
  | .number n, .number n' =>
      obtain ⟨rfl, rfl⟩ := Number.eq_of_text h ht ht'
      exact ⟨rfl, rfl⟩
  | .string ps, .string ps' =>
      simp only [Parameter.text, List.cons_append, List.append_assoc, List.nil_append] at h
      obtain ⟨rfl, rfl⟩ := Piece.eq_of_text (List.cons.inj h).2
      exact ⟨rfl, rfl⟩
  | .bare n, .bare n' =>
      obtain ⟨rfl, rfl⟩ := Name.eq_of_text h ht.stops_isNamePart ht'.stops_isNamePart
      exact ⟨rfl, rfl⟩
  | .bare n, .call n' gap' l' =>
      simp only [Parameter.text, List.append_assoc, List.cons_append] at h
      obtain ⟨-, rfl⟩ := Name.eq_of_text h ht.stops_isNamePart (gap'.stops_isNamePart _)
      exact absurd rfl (ht.ne_list gap' _)
  | .call n gap l, .bare n' =>
      simp only [Parameter.text, List.append_assoc, List.cons_append] at h
      obtain ⟨-, rfl⟩ := Name.eq_of_text h (gap.stops_isNamePart _) ht'.stops_isNamePart
      exact absurd rfl (ht'.ne_list gap _)
  | .call n gap l, .call n' gap' l' =>
      simp only [Parameter.text, List.append_assoc, List.cons_append] at h
      obtain ⟨rfl, hlist⟩ :=
        Name.eq_of_text h (gap.stops_isNamePart _) (gap'.stops_isNamePart _)
      obtain ⟨rfl, -, hinner⟩ := Blanks.eq_of_text hlist (by decide) (by decide)
      obtain ⟨rfl, rfl⟩ := ParameterList.eq_of_inner l l' hinner
      exact ⟨rfl, rfl⟩

theorem ParameterList.eq_of_inner (l l' : ParameterList K) {t t' : Text}
    (h : l.inner ++ t = l'.inner ++ t') : l = l' ∧ t = t' := by
  match l, l' with
  | .empty gap, .empty gap' =>
      simp only [ParameterList.inner, List.append_assoc, List.cons_append, List.nil_append] at h
      obtain ⟨rfl, -, rfl⟩ := Blanks.eq_of_text h (by decide) (by decide)
      exact ⟨rfl, rfl⟩
  | .empty gap, .items gap' first' rest' =>
      simp only [ParameterList.inner, List.append_assoc, List.cons_append, List.nil_append] at h
      exact absurd h.symm (Parameter.ne_of_opening (by decide) (by decide))
  | .items gap first rest, .empty gap' =>
      simp only [ParameterList.inner, List.append_assoc, List.cons_append, List.nil_append] at h
      exact absurd h (Parameter.ne_of_opening (by decide) (by decide))
  | .items gap first rest, .items gap' first' rest' =>
      simp only [ParameterList.inner, List.append_assoc] at h
      obtain ⟨rfl, hfirst⟩ := Parameter.gap_eq_of_text h
      obtain ⟨rfl, hrest⟩ :=
        Parameter.eq_of_text first first' hfirst (rest.follows t) (rest'.follows t')
      obtain ⟨rfl, rfl⟩ := ListRest.eq_of_text rest rest' hrest
      exact ⟨rfl, rfl⟩

theorem ListRest.eq_of_text (r r' : ListRest K) {t t' : Text}
    (h : r.text ++ t = r'.text ++ t') : r = r' ∧ t = t' := by
  match r, r' with
  | .done gap, .done gap' =>
      simp only [ListRest.text, List.append_assoc, List.cons_append, List.nil_append] at h
      obtain ⟨rfl, -, rfl⟩ := Blanks.eq_of_text h (by decide) (by decide)
      exact ⟨rfl, rfl⟩
  | .done gap, .more gap' _ next' rest' =>
      simp only [ListRest.text, List.append_assoc, List.cons_append, List.nil_append] at h
      obtain ⟨-, hc, -⟩ := Blanks.eq_of_text h (by decide) (by decide)
      exact absurd hc (by decide)
  | .more gap _ next rest, .done gap' =>
      simp only [ListRest.text, List.append_assoc, List.cons_append, List.nil_append] at h
      obtain ⟨-, hc, -⟩ := Blanks.eq_of_text h (by decide) (by decide)
      exact absurd hc (by decide)
  | .more gap inner next rest, .more gap' inner' next' rest' =>
      simp only [ListRest.text, List.append_assoc, List.cons_append] at h
      obtain ⟨rfl, -, hcomma⟩ := Blanks.eq_of_text h (by decide) (by decide)
      obtain ⟨rfl, hnext⟩ := Parameter.gap_eq_of_text hcomma
      obtain ⟨rfl, hrest⟩ :=
        Parameter.eq_of_text next next' hnext (rest.follows t) (rest'.follows t')
      obtain ⟨rfl, rfl⟩ := ListRest.eq_of_text rest rest' hrest
      exact ⟨rfl, rfl⟩

end

theorem Parameters.eq_of_text {d d' : Parameters K} (h : d.text = d'.text) : d = d' := by
  have noList (gap gap' : Blanks) (t : Text) : gap.text ≠ gap'.text ++ '(' :: t := by
    intro heq
    have hopen := List.all_eq_true.mp gap.blank '(' (by simp [heq])
    exact absurd hopen (by decide)
  match d, d' with
  | .none gap, .none gap' =>
      obtain ⟨gap, hgap⟩ := gap
      obtain ⟨gap', hgap'⟩ := gap'
      obtain rfl : gap = gap' := h
      rfl
  | .none gap, .list gap' l' _ => exact absurd h (noList gap gap' _)
  | .list gap l _, .none gap' => exact absurd h.symm (noList gap' gap _)
  | .list gap l after, .list gap' l' after' =>
      obtain ⟨rfl, -, hinner⟩ := Blanks.eq_of_text h (by decide) (by decide)
      obtain ⟨rfl, hafter⟩ := ParameterList.eq_of_inner l l' hinner
      obtain ⟨after, hblank⟩ := after
      obtain ⟨after', hblank'⟩ := after'
      obtain rfl : after = after' := hafter
      rfl

end PluginForms.Grammar
