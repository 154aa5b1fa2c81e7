import PluginForms.Proofs.Selector.Unambiguous
import PluginForms.Selector.Reading

/-!
What the states of the reader mean. For each state `Demands` says, in terms of the
grammar, what the text that is left has to be for the reader to accept it and to
return given trees: the rest of the token, the rest of the list, and then the rest
of every list that is waiting. One step of the reader takes one character off that
text (`demands_cons`).
-/

namespace PluginForms.ReadState

open Grammar

variable {K : Kind} {waiting : List (Frame K)} {items es : List (Expression K)}

/-! ### What is demanded of the text that is left -/

/-- The current list ended with the items `items`: each list that is waiting gets the
rest of its text, from the innermost one on, and white space ends it all. -/
def Closes : List (Frame K) → List (Expression K) → Text → List (Expression K) → Prop
  | [], items, t, es => t.all Text.isBlank = true ∧ items = es
  | f :: waiting, items, t, es =>
      ∃ (rest : ListRest K) (u : Text), t = rest.text ++ u ∧
        waiting.length + rest.depth ≤ nestingLimit ∧
        Closes waiting (f.items ++ [.call f.caller items] ++ rest.trees) u es

/-- After a complete parameter: the rest of the list. -/
def Ends (waiting : List (Frame K)) (items : List (Expression K)) (t : Text)
    (es : List (Expression K)) : Prop :=
  ∃ (rest : ListRest K) (u : Text), t = rest.text ++ u ∧
    waiting.length + rest.depth ≤ nestingLimit ∧ Closes waiting (items ++ rest.trees) u es

/-- A parameter, then the rest of the list. -/
def Item (waiting : List (Frame K)) (items : List (Expression K)) (t : Text)
    (es : List (Expression K)) : Prop :=
  ∃ (p : Parameter K) (u : Text), t = p.text ++ u ∧
    waiting.length + 1 + p.depth ≤ nestingLimit ∧ Ends waiting (items ++ [p.tree]) u es

/-- After a comma. -/
def Next (waiting : List (Frame K)) (items : List (Expression K)) (t : Text)
    (es : List (Expression K)) : Prop :=
  ∃ (gap : Blanks) (u : Text), t = gap.text ++ u ∧ Item waiting items u es

/-- After an opening parenthesis. -/
def Opened (waiting : List (Frame K)) (items : List (Expression K)) (t : Text)
    (es : List (Expression K)) : Prop :=
  ∃ (l : ParameterList K) (u : Text), t = l.inner ++ u ∧
    waiting.length + l.depth ≤ nestingLimit ∧ Closes waiting (items ++ l.trees) u es

/-- After a name that a list follows. -/
def Opens (waiting : List (Frame K)) (items : List (Expression K)) (n : Name K) (t : Text)
    (es : List (Expression K)) : Prop :=
  ∃ (gap : Blanks) (u : Text), t = gap.text ++ '(' :: u ∧ Opened (⟨items, n⟩ :: waiting) [] u es

/-- After a complete name. -/
def Named (waiting : List (Frame K)) (items : List (Expression K)) (n : Name K) (t : Text)
    (es : List (Expression K)) : Prop :=
  Ends waiting (items ++ [.call n []]) t es ∨ Opens waiting items n t es

/-- After a complete number. -/
def Numbered (waiting : List (Frame K)) (items : List (Expression K)) (literal t : Text)
    (es : List (Expression K)) : Prop :=
  Ends waiting (items ++ [.number (.ofLiteral literal)]) t es

/-- After the digits before a point: there may be a point and more digits. -/
def Pointed (waiting : List (Frame K)) (items : List (Expression K)) (literal t : Text)
    (es : List (Expression K)) : Prop :=
  ∃ (fraction : Option Digits) (u : Text), t = Digits.fraction fraction ++ u ∧
    Numbered waiting items (literal ++ Digits.fraction fraction) u es

def InString (waiting : List (Frame K)) (items : List (Expression K)) (chars t : Text)
    (es : List (Expression K)) : Prop :=
  ∃ (ps : List Piece) (u : Text), t = ps.flatMap Piece.text ++ '"' :: u ∧
    Ends waiting (items ++ [.string (chars ++ ps.map Piece.value)]) u es

def PhaseDemands (waiting : List (Frame K)) (items : List (Expression K)) (t : Text)
    (es : List (Expression K)) : Phase K → Prop
  | .opened => Opened waiting items t es
  | .separated => Next waiting items t es
  | .name chars => Text.Run isNamePart (fun more u =>
      ∃ n : Name K, n.chars = chars ++ more ∧ Named waiting items n u es) t
  | .named n => Named waiting items n t es
  | .sign => ∃ (d : Digits) (u : Text), t = d.text ++ u ∧
      Pointed waiting items ('-' :: d.text) u es
  | .whole literal => Text.Run Text.isDigit (fun more u =>
      Pointed waiting items (literal ++ more) u es) t
  | .point literal => ∃ (d : Digits) (u : Text), t = d.text ++ u ∧
      Numbered waiting items (literal ++ d.text) u es
  | .fraction literal => Text.Run Text.isDigit (fun more u =>
      Numbered waiting items (literal ++ more) u es) t
  | .string chars => InString waiting items chars t es
  | .escape chars => ∃ (e : Escape) (u : Text),
      t = e.mark :: u ∧ InString waiting items (chars ++ [e.value]) u es
  | .complete => Ends waiting items t es

/-- The reader accepts `t` from the state on and returns `es`. -/
def Demands : ReadState K → Text → List (Expression K) → Prop
  | before, t, es => Derives nestingLimit t es
  | after items, t, es => t.all Text.isBlank = true ∧ items = es
  | inside waiting items phase, t, es => PhaseDemands waiting items t es phase

/-- The step leads to a state that demands no more than `t`. -/
def Allows (r : Except Refusal (ReadState K)) (t : Text) (es : List (Expression K)) : Prop :=
  ∃ s, r = .ok s ∧ Demands s t es

@[simp] theorem allows_ok {s : ReadState K} {t : Text} :
    Allows (.ok s) t es ↔ Demands s t es := by
  constructor
  · rintro ⟨s', hs, h⟩
    obtain rfl := Except.ok.inj hs
    exact h
  · intro h
    exact ⟨s, rfl, h⟩

@[simp] theorem allows_error {r : Refusal} {t : Text} :
    Allows (.error r : Except Refusal (ReadState K)) t es ↔ False := by
  refine ⟨?_, False.elim⟩
  rintro ⟨s, hs, -⟩
  contradiction

theorem demands_close {t : Text} :
    Demands (close items waiting) t es ↔ Closes waiting items t es := by
  cases waiting with
  | nil => exact Iff.rfl
  | cons f waiting => exact Iff.rfl

/-! ### The first character of what is demanded -/

variable {c : Char} {t : Text}

theorem ends_cons (hroom : waiting.length + 1 ≤ nestingLimit) :
    Ends waiting items (c :: t) es ↔
      (Text.isBlank c = true ∧ Ends waiting items t es) ∨
        (c = ',' ∧ Next waiting items t es) ∨ (c = ')' ∧ Closes waiting items t es) := by
  constructor
  · rintro ⟨rest, u, ht, hdepth, hcloses⟩
    cases rest with
    | done gap =>
        simp only [ListRest.text, List.append_assoc, List.cons_append, List.nil_append] at ht
        rcases Blanks.append_eq_cons ht.symm with ⟨rfl, hclose⟩ | ⟨hc, gap', rfl, rfl⟩
        · obtain ⟨rfl, rfl⟩ := List.cons.inj hclose
          exact .inr (.inr ⟨rfl, by simpa [ListRest.trees] using hcloses⟩)
        · exact .inl ⟨hc, .done gap', u, by simp [ListRest.text], hdepth, hcloses⟩
    | more gap inner next rest =>
        simp only [ListRest.text, List.append_assoc, List.cons_append] at ht
        rcases Blanks.append_eq_cons ht.symm with ⟨rfl, hcomma⟩ | ⟨hc, gap', rfl, rfl⟩
        · obtain ⟨rfl, rfl⟩ := List.cons.inj hcomma
          simp only [ListRest.depth] at hdepth
          refine .inr (.inl ⟨rfl, inner, _, rfl, next, rest.text ++ u, rfl, by omega, ?_⟩)
          exact ⟨rest, u, rfl, by omega, by simpa [ListRest.trees] using hcloses⟩
        · exact .inl ⟨hc, .more gap' inner next rest, u, by simp [ListRest.text], hdepth, hcloses⟩
  · rintro (⟨hc, rest, u, rfl, hdepth, hcloses⟩ | ⟨rfl, inner, _, rfl, next, _, rfl, hnext, rest, u,
      rfl, hdepth, hcloses⟩ | ⟨rfl, hcloses⟩)
    · cases rest with
      | done gap => exact ⟨.done (gap.cons c hc), u, by simp [ListRest.text], hdepth, hcloses⟩
      | more gap inner next rest =>
          exact ⟨.more (gap.cons c hc) inner next rest, u, by simp [ListRest.text], hdepth, hcloses⟩
    · refine ⟨.more .nil inner next rest, u, by simp [ListRest.text], ?_, ?_⟩
      · simp only [ListRest.depth]
        omega
      · simpa [ListRest.trees] using hcloses
    · exact ⟨.done .nil, t, by simp [ListRest.text], hroom, by simpa [ListRest.trees] using hcloses⟩

/-- A parameter starts with a character that opens one. -/
theorem Item.opening (h : Item waiting items (c :: t) es) : ∃ o, Opening.of? c = some o := by
  obtain ⟨p, u, ht, -, -⟩ := h
  exact ⟨p.opening, Parameter.opening_of_text ht⟩

theorem Item.not_of_isBlank (hblank : Text.isBlank c = true) :
    ¬ Item waiting items (c :: t) es := by
  intro hitem
  obtain ⟨o, ho⟩ := hitem.opening
  rw [Opening.isBlank_of ho] at hblank
  contradiction

theorem next_cons :
    Next waiting items (c :: t) es ↔
      (Text.isBlank c = true ∧ Next waiting items t es) ∨ Item waiting items (c :: t) es := by
  constructor
  · rintro ⟨gap, u, ht, hitem⟩
    rcases Blanks.append_eq_cons ht.symm with ⟨rfl, rfl⟩ | ⟨hc, gap', rfl, rfl⟩
    · exact .inr hitem
    · exact .inl ⟨hc, gap', u, rfl, hitem⟩
  · rintro (⟨hc, gap, u, rfl, hitem⟩ | hitem)
    · exact ⟨gap.cons c hc, u, rfl, hitem⟩
    · exact ⟨.nil, c :: t, rfl, hitem⟩

theorem opened_cons (hroom : waiting.length + 1 ≤ nestingLimit) :
    Opened waiting items (c :: t) es ↔
      (Text.isBlank c = true ∧ Opened waiting items t es) ∨
        (c = ')' ∧ Closes waiting items t es) ∨ Item waiting items (c :: t) es := by
  constructor
  · rintro ⟨l, u, ht, hdepth, hcloses⟩
    cases l with
    | empty gap =>
        simp only [ParameterList.inner, List.append_assoc, List.cons_append,
          List.nil_append] at ht
        rcases Blanks.append_eq_cons ht.symm with ⟨rfl, hclose⟩ | ⟨hc, gap', rfl, rfl⟩
        · obtain ⟨rfl, rfl⟩ := List.cons.inj hclose
          exact .inr (.inl ⟨rfl, by simpa [ParameterList.trees] using hcloses⟩)
        · exact .inl ⟨hc, .empty gap', u, by simp [ParameterList.inner], hdepth, hcloses⟩
    | items gap first rest =>
        simp only [ParameterList.inner, List.append_assoc] at ht
        rcases Blanks.append_eq_cons ht.symm with ⟨rfl, hitem⟩ | ⟨hc, gap', rfl, rfl⟩
        · simp only [ParameterList.depth] at hdepth
          refine .inr (.inr ⟨first, rest.text ++ u, hitem.symm, by omega, ?_⟩)
          exact ⟨rest, u, rfl, by omega, by simpa [ParameterList.trees] using hcloses⟩
        · exact .inl ⟨hc, .items gap' first rest, u, by simp [ParameterList.inner], hdepth, hcloses⟩
  · rintro (⟨hc, l, u, rfl, hdepth, hcloses⟩ | ⟨rfl, hcloses⟩ | ⟨first, _, ht, hfirst, rest, u, rfl,
      hdepth, hcloses⟩)
    · cases l with
      | empty gap => exact ⟨.empty (gap.cons c hc), u, by simp [ParameterList.inner], hdepth, hcloses⟩
      | items gap first rest =>
          exact ⟨.items (gap.cons c hc) first rest, u, by simp [ParameterList.inner], hdepth,
            hcloses⟩
    · exact ⟨.empty .nil, t, by simp [ParameterList.inner], hroom,
        by simpa [ParameterList.trees] using hcloses⟩
    · refine ⟨.items .nil first rest, u, by simp [ParameterList.inner, ht], ?_, ?_⟩
      · simp only [ParameterList.depth]
        omega
      · simpa [ParameterList.trees] using hcloses

theorem opens_cons {n : Name K} :
    Opens waiting items n (c :: t) es ↔
      (Text.isBlank c = true ∧ Opens waiting items n t es) ∨
        (c = '(' ∧ Opened (⟨items, n⟩ :: waiting) [] t es) := by
  constructor
  · rintro ⟨gap, u, ht, hopened⟩
    rcases Blanks.append_eq_cons ht.symm with ⟨rfl, hopen⟩ | ⟨hc, gap', rfl, rfl⟩
    · obtain ⟨rfl, rfl⟩ := List.cons.inj hopen
      exact .inr ⟨rfl, hopened⟩
    · exact .inl ⟨hc, gap', u, rfl, hopened⟩
  · rintro (⟨hc, gap, u, rfl, hopened⟩ | ⟨rfl, hopened⟩)
    · exact ⟨gap.cons c hc, u, rfl, hopened⟩
    · exact ⟨.nil, t, rfl, hopened⟩

/-! ### One step -/

theorem allows_stepComplete (hroom : waiting.length + 1 ≤ nestingLimit) :
    Allows (stepComplete waiting items c) t es ↔ Ends waiting items (c :: t) es := by
  rw [ends_cons hroom, stepComplete]
  split
  · rename_i hblank
    have hcomma : c ≠ ',' := Text.ne_of_isBlank hblank (by decide)
    have hclose : c ≠ ')' := Text.ne_of_isBlank hblank (by decide)
    simp [hblank, hcomma, hclose, Demands, PhaseDemands]
  · rename_i hblank
    split
    · subst c
      simp [hblank, Demands, PhaseDemands]
    · rename_i hcomma
      split
      · subst c
        simp [hblank, demands_close]
      · rename_i hclose
        simp [hblank, hcomma, hclose]

theorem allows_stepNamed {n : Name K} (hroom : waiting.length + 1 ≤ nestingLimit) :
    Allows (stepNamed waiting items n c) t es ↔ Named waiting items n (c :: t) es := by
  rw [Named, opens_cons, stepNamed]
  split
  · rename_i hblank
    have hopen : c ≠ '(' := Text.ne_of_isBlank hblank (by decide)
    have hcomma : c ≠ ',' := Text.ne_of_isBlank hblank (by decide)
    have hclose : c ≠ ')' := Text.ne_of_isBlank hblank (by decide)
    simp [ends_cons hroom, hblank, hopen, hcomma, hclose, Demands, PhaseDemands, Named]
  · rename_i hblank
    split
    · subst c
      split
      · simp [ends_cons hroom, hblank, Demands, PhaseDemands]
      · rename_i hfull
        -- the list would be one too many, since every list counts itself
        have hdeep : ¬ Opened (⟨items, n⟩ :: waiting) [] t es := by
          rintro ⟨l, u, -, hdepth, -⟩
          have hl := l.depth_pos
          simp only [List.length_cons] at hdepth
          omega
        simp [ends_cons hroom, hblank, hdeep]
    · rename_i hopen
      rw [allows_stepComplete hroom]
      simp [hblank, hopen]

theorem item_quote (hroom : waiting.length + 1 ≤ nestingLimit) :
    Item waiting items ('"' :: t) es ↔ InString waiting items [] t es := by
  constructor
  · rintro ⟨p, u, ht, -, hends⟩
    have hopening := Parameter.opening_of_text ht
    match p with
    | .string ps =>
        simp only [Parameter.text, List.cons_append, List.append_assoc, List.nil_append] at ht
        exact ⟨ps, u, (List.cons.inj ht).2, hends⟩
  · rintro ⟨ps, u, rfl, hends⟩
    exact ⟨.string ps, u, by simp [Parameter.text], hroom, hends⟩

theorem item_hyphen (hroom : waiting.length + 1 ≤ nestingLimit) :
    Item waiting items ('-' :: t) es ↔ PhaseDemands waiting items t es .sign := by
  constructor
  · rintro ⟨p, u, ht, -, hends⟩
    have hopening := Parameter.opening_of_text ht
    match p with
    | .number ⟨true, whole, fraction⟩ =>
        simp only [Parameter.text, Number.text, Number.sign, if_true, List.cons_append,
          List.append_assoc, List.nil_append] at ht
        exact ⟨whole, _, (List.cons.inj ht).2, fraction, u, rfl, hends⟩
    | .number ⟨false, whole, fraction⟩ =>
        -- without its sign a number starts with a digit
        obtain ⟨c, v, hwhole, hc⟩ := whole.exists_cons
        simp only [Parameter.text, Number.text, Number.sign, hwhole] at ht
        rw [← (List.cons.inj ht).1] at hc
        exact absurd hc (by decide)
  · rintro ⟨whole, _, rfl, fraction, u, rfl, hends⟩
    exact ⟨.number ⟨true, whole, fraction⟩, u, by simp [Parameter.text, Number.text, Number.sign],
      hroom, hends⟩

theorem item_digit (hroom : waiting.length + 1 ≤ nestingLimit) (hc : Text.isDigit c = true) :
    Item waiting items (c :: t) es ↔ PhaseDemands waiting items t es (.whole [c]) := by
  constructor
  · rintro ⟨p, u, ht, -, hends⟩
    have hopening := Parameter.opening_of_text ht
    rw [Opening.of?_isDigit hc] at hopening
    match p with
    | .number ⟨true, whole, fraction⟩ =>
        rw [(List.cons.inj ht).1] at hc
        exact absurd hc (by decide)
    | .number ⟨false, ⟨text, digits, nonempty⟩, fraction⟩ =>
        obtain ⟨d, more, rfl⟩ := List.exists_cons_of_ne_nil nonempty
        rw [List.all_cons, Bool.and_eq_true] at digits
        simp only [Parameter.text, Number.text, Number.sign, List.cons_append, List.append_assoc,
          List.nil_append, Bool.false_eq_true, if_false] at ht
        obtain ⟨rfl, rfl⟩ := List.cons.inj ht
        exact ⟨more, _, digits.2, rfl, fraction, u, rfl, hends⟩
  · rintro ⟨more, _, hmore, rfl, fraction, u, rfl, hends⟩
    refine ⟨.number ⟨false, ⟨c :: more, ?_, List.cons_ne_nil c more⟩, fraction⟩, u, ?_, hroom, hends⟩
    · rw [List.all_cons, hc, hmore]
      rfl
    · simp [Parameter.text, Number.text, Number.sign]

theorem item_initial (hroom : waiting.length + 1 ≤ nestingLimit) (hc : isNameInitial c = true) :
    Item waiting items (c :: t) es ↔ PhaseDemands waiting items t es (.name [c]) := by
  constructor
  · rintro ⟨p, u, ht, hdepth, hends⟩
    have hopening := Parameter.opening_of_text ht
    rw [Opening.of?_isNameInitial hc] at hopening
    match p with
    | .bare n =>
        obtain ⟨d, more, hn, -, hmore⟩ := n.exists_cons
        simp only [Parameter.text, hn, List.cons_append] at ht
        obtain ⟨rfl, rfl⟩ := List.cons.inj ht
        exact ⟨more, u, hmore, rfl, n, hn, .inl hends⟩
    | .call n gap l =>
        -- the list of the call is one more that waits for the rest of its parameters
        obtain ⟨d, more, hn, -, hmore⟩ := n.exists_cons
        simp only [Parameter.text, hn, List.cons_append, List.append_assoc] at ht
        obtain ⟨rfl, rfl⟩ := List.cons.inj ht
        exact ⟨more, _, hmore, rfl, n, hn, .inr ⟨gap, _, rfl, l, u, rfl, hdepth, hends⟩⟩
  · rintro ⟨more, u, -, rfl, n, hn, hends | ⟨gap, _, rfl, l, v, rfl, hdepth, hends⟩⟩
    · exact ⟨.bare n, u, by simp [Parameter.text, hn], hroom, hends⟩
    · exact ⟨.call n gap l, v, by simp [Parameter.text, hn], hdepth, hends⟩

theorem allows_stepItem (hroom : waiting.length + 1 ≤ nestingLimit) :
    Allows (stepItem waiting items c) t es ↔ Item waiting items (c :: t) es := by
  rw [stepItem]
  split
  · subst c
    rw [item_quote hroom, allows_ok, Demands, PhaseDemands]
  · rename_i hquote
    split
    · subst c
      rw [item_hyphen hroom, allows_ok, Demands]
    · rename_i hhyphen
      split
      · rename_i hdigit
        rw [item_digit hroom hdigit, allows_ok, Demands]
      · rename_i hdigit
        split
        · rename_i hinitial
          rw [item_initial hroom hinitial, allows_ok, Demands]
        · rename_i hinitial
          rw [allows_error, false_iff]
          intro hitem
          obtain ⟨o, ho⟩ := hitem.opening
          simp [Opening.of?, hquote, hhyphen, hdigit, hinitial] at ho

/-! A token goes on as long as it can: a character that could still be part of it
is not the start of what may follow it. -/

theorem not_ends_cons (hroom : waiting.length + 1 ≤ nestingLimit)
    (hblank : Text.isBlank c = false) (hcomma : c ≠ ',') (hclose : c ≠ ')') :
    ¬ Ends waiting items (c :: t) es := by
  rw [ends_cons hroom]
  simp [hblank, hcomma, hclose]

theorem not_ends_of_isNamePart (hroom : waiting.length + 1 ≤ nestingLimit)
    (hpart : isNamePart c = true) : ¬ Ends waiting items (c :: t) es :=
  not_ends_cons hroom (isBlank_of_isNamePart hpart) (ne_of_isNamePart hpart (by decide))
    (ne_of_isNamePart hpart (by decide))

theorem not_named_of_isNamePart {n : Name K} (hroom : waiting.length + 1 ≤ nestingLimit)
    (hpart : isNamePart c = true) : ¬ Named waiting items n (c :: t) es := by
  rintro (hends | hopens)
  · exact not_ends_of_isNamePart hroom hpart hends
  · have hopen : c ≠ '(' := ne_of_isNamePart hpart (by decide)
    rw [opens_cons] at hopens
    simp [isBlank_of_isNamePart hpart, hopen] at hopens

theorem pointed_cons {literal : Text} :
    Pointed waiting items literal (c :: t) es ↔
      (c = '.' ∧ PhaseDemands waiting items t es (.point (literal ++ ['.']))) ∨
        Numbered waiting items literal (c :: t) es := by
  constructor
  · rintro ⟨fraction, u, ht, hends⟩
    cases fraction with
    | none =>
        obtain rfl : c :: t = u := ht
        exact .inr (by simpa [Digits.fraction] using hends)
    | some d =>
        obtain ⟨rfl, rfl⟩ := List.cons.inj ht
        exact .inl ⟨rfl, d, u, rfl, by simpa [Digits.fraction] using hends⟩
  · rintro (⟨rfl, d, u, rfl, hends⟩ | hends)
    · exact ⟨some d, u, rfl, by simpa [Digits.fraction] using hends⟩
    · exact ⟨none, c :: t, rfl, by simpa [Digits.fraction] using hends⟩

/-- Digits that there have to be start with one. -/
theorem digits_cons {P : Text → Text → Prop} :
    (∃ (d : Digits) (u : Text), c :: t = d.text ++ u ∧ P d.text u) ↔
      Text.isDigit c = true ∧ Text.Run Text.isDigit (fun more u => P (c :: more) u) t := by
  constructor
  · rintro ⟨⟨text, digits, nonempty⟩, u, ht, hP⟩
    obtain ⟨d, more, rfl⟩ := List.exists_cons_of_ne_nil nonempty
    rw [List.all_cons, Bool.and_eq_true] at digits
    obtain ⟨rfl, rfl⟩ := List.cons.inj ht
    exact ⟨digits.1, more, u, digits.2, rfl, hP⟩
  · rintro ⟨hc, more, u, hmore, rfl, hP⟩
    refine ⟨⟨c :: more, ?_, List.cons_ne_nil c more⟩, u, rfl, hP⟩
    rw [List.all_cons, hc, hmore]
    rfl

theorem inString_cons {chars : Text} :
    InString waiting items chars (c :: t) es ↔
      (c = '"' ∧ Ends waiting (items ++ [.string chars]) t es) ∨
        (c = '\\' ∧ PhaseDemands waiting items t es (.escape chars)) ∨
        ((c ≠ '"' ∧ c ≠ '\\') ∧ InString waiting items (chars ++ [c]) t es) := by
  constructor
  · rintro ⟨ps, u, ht, hends⟩
    cases ps with
    | nil =>
        obtain ⟨rfl, rfl⟩ := List.cons.inj ht
        exact .inl ⟨rfl, by simpa using hends⟩
    | cons p ps =>
        cases p with
        | raw d plain =>
            obtain ⟨rfl, rfl⟩ := List.cons.inj ht
            exact .inr (.inr ⟨plain, ps, u, rfl, by simpa [Piece.value] using hends⟩)
        | escape e =>
            obtain ⟨rfl, rfl⟩ := List.cons.inj ht
            exact .inr (.inl ⟨rfl, e, _, rfl, ps, u, rfl, by simpa [Piece.value] using hends⟩)
  · rintro (⟨rfl, hends⟩ | ⟨rfl, e, _, rfl, ps, u, rfl, hends⟩ | ⟨hplain, ps, u, rfl, hends⟩)
    · exact ⟨[], t, rfl, by simpa using hends⟩
    · exact ⟨.escape e :: ps, u, rfl, by simpa [Piece.value] using hends⟩
    · exact ⟨.raw c hplain :: ps, u, rfl, by simpa [Piece.value] using hends⟩

theorem unescape?_eq_some_iff {d : Char} :
    unescape? c = some d ↔ ∃ e : Escape, e.mark = c ∧ e.value = d := by
  constructor
  · intro h
    unfold unescape? at h
    split at h <;> cases h
    · exact ⟨.quote, rfl, rfl⟩
    · exact ⟨.backslash, rfl, rfl⟩
    · exact ⟨.apostrophe, rfl, rfl⟩
    · exact ⟨.newline, rfl, rfl⟩
    · exact ⟨.carriageReturn, rfl, rfl⟩
    · exact ⟨.tab, rfl, rfl⟩
    · exact ⟨.null, rfl, rfl⟩
  · rintro ⟨e, rfl, rfl⟩
    cases e <;> rfl

/-! The phases, one by one. What was read of a token stands in the phase, and what is
demanded is the rest of it. -/

theorem allows_opened (hroom : waiting.length + 1 ≤ nestingLimit) :
    Allows (stepInside waiting items c .opened) t es ↔ Opened waiting items (c :: t) es := by
  rw [opened_cons hroom, stepInside]
  split
  · rename_i hblank
    have hclose : c ≠ ')' := Text.ne_of_isBlank hblank (by decide)
    have hitem : ¬ Item waiting items (c :: t) es := Item.not_of_isBlank hblank
    simp [hblank, hclose, hitem, Demands, PhaseDemands]
  · rename_i hblank
    split
    · subst c
      have hitem : ¬ Item waiting items (')' :: t) es := by
        intro hitem
        obtain ⟨o, ho⟩ := hitem.opening
        exact absurd ho (by cases o <;> decide)
      simp [hblank, hitem, demands_close]
    · rename_i hclose
      simp [hblank, hclose, allows_stepItem hroom]

theorem allows_separated (hroom : waiting.length + 1 ≤ nestingLimit) :
    Allows (stepInside waiting items c .separated) t es ↔ Next waiting items (c :: t) es := by
  rw [next_cons, stepInside]
  split
  · rename_i hblank
    have hitem : ¬ Item waiting items (c :: t) es := Item.not_of_isBlank hblank
    simp [hblank, hitem, Demands, PhaseDemands]
  · rename_i hblank
    simp [hblank, allows_stepItem hroom]

theorem allows_name (hroom : waiting.length + 1 ≤ nestingLimit) (chars : Text) :
    Allows (stepInside waiting items c (.name chars)) t es ↔
      PhaseDemands waiting items (c :: t) es (.name chars) := by
  rw [PhaseDemands, Text.run_cons, stepInside]
  split
  · rename_i hpart
    have hends (n : Name K) : ¬ Named waiting items n (c :: t) es :=
      not_named_of_isNamePart hroom hpart
    simp [hpart, hends, Demands, PhaseDemands]
  · rename_i hpart
    -- the name ends here, so the characters have to be a name, and are one at most
    cases hname : (Name.ofText chars : Except PluginError (Name K)) with
    | ok n =>
        have hchars := Name.chars_of_ofText hname
        have hunique (m : Name K) : m.chars = chars ↔ m = n :=
          ⟨fun hm => Name.ext_chars (hm.trans hchars.symm), fun hm => hm ▸ hchars⟩
        simp [hpart, hunique, allows_stepNamed hroom]
    | error e =>
        have hnone (m : Name K) : m.chars ≠ chars := by
          rintro rfl
          rw [Name.ofText_chars] at hname
          contradiction
        simp [hpart, hnone]

theorem allows_sign :
    Allows (stepInside waiting items c .sign) t es ↔
      PhaseDemands waiting items (c :: t) es .sign := by
  rw [PhaseDemands, stepInside]
  rw [digits_cons (P := fun digits u => Pointed waiting items ('-' :: digits) u es)]
  split
  · rename_i hdigit
    simp [hdigit, Demands, PhaseDemands]
  · rename_i hdigit
    simp [hdigit]

theorem allows_whole (hroom : waiting.length + 1 ≤ nestingLimit) (literal : Text) :
    Allows (stepInside waiting items c (.whole literal)) t es ↔
      PhaseDemands waiting items (c :: t) es (.whole literal) := by
  rw [PhaseDemands, Text.run_cons, pointed_cons, stepInside]
  split
  · rename_i hdigit
    have hpoint : c ≠ '.' := by
      rintro rfl
      exact absurd hdigit (by decide)
    have hends : ¬ Numbered waiting items literal (c :: t) es :=
      not_ends_of_isNamePart hroom (isNamePart_of_isDigit hdigit)
    simp [hdigit, hpoint, hends, Demands, PhaseDemands]
  · rename_i hdigit
    split
    · subst c
      -- nothing that may follow a number starts with a point
      have hends : ¬ Numbered waiting items literal ('.' :: t) es :=
        not_ends_cons hroom (by decide) (by decide) (by decide)
      simp [hdigit, hends, Demands]
    · rename_i hpoint
      simp [hdigit, hpoint, allows_stepComplete hroom, Numbered]

theorem allows_point (literal : Text) :
    Allows (stepInside waiting items c (.point literal)) t es ↔
      PhaseDemands waiting items (c :: t) es (.point literal) := by
  rw [PhaseDemands, stepInside]
  rw [digits_cons (P := fun digits u => Numbered waiting items (literal ++ digits) u es)]
  split
  · rename_i hdigit
    simp [hdigit, Demands, PhaseDemands]
  · rename_i hdigit
    simp [hdigit]

theorem allows_fraction (hroom : waiting.length + 1 ≤ nestingLimit) (literal : Text) :
    Allows (stepInside waiting items c (.fraction literal)) t es ↔
      PhaseDemands waiting items (c :: t) es (.fraction literal) := by
  rw [PhaseDemands, Text.run_cons, stepInside]
  split
  · rename_i hdigit
    have hends : ¬ Numbered waiting items literal (c :: t) es :=
      not_ends_of_isNamePart hroom (isNamePart_of_isDigit hdigit)
    simp [hdigit, hends, Demands, PhaseDemands]
  · rename_i hdigit
    simp [hdigit, allows_stepComplete hroom, Numbered]

theorem allows_string (chars : Text) :
    Allows (stepInside waiting items c (.string chars)) t es ↔
      InString waiting items chars (c :: t) es := by
  rw [inString_cons, stepInside]
  split
  · subst c
    simp [Demands, PhaseDemands]
  · rename_i hquote
    split
    · subst c
      simp [Demands]
    · rename_i hbackslash
      simp [hquote, hbackslash, Demands, PhaseDemands]

theorem allows_escape (chars : Text) :
    Allows (stepInside waiting items c (.escape chars)) t es ↔
      PhaseDemands waiting items (c :: t) es (.escape chars) := by
  rw [PhaseDemands, stepInside]
  split
  · rename_i d hd
    obtain ⟨e, rfl, rfl⟩ := unescape?_eq_some_iff.mp hd
    rw [allows_ok, Demands, PhaseDemands]
    constructor
    · intro h
      exact ⟨e, t, rfl, h⟩
    · rintro ⟨e', u, hmark, h⟩
      obtain ⟨heq, rfl⟩ := List.cons.inj hmark
      rw [Escape.mark_injective heq]
      exact h
  · rename_i hnone
    rw [allows_error, false_iff]
    rintro ⟨e, u, hmark, -⟩
    have hsome := unescape?_eq_some_iff.mpr ⟨e, (List.cons.inj hmark).1.symm, rfl⟩
    rw [hnone] at hsome
    contradiction

theorem allows_stepInside (hroom : waiting.length + 1 ≤ nestingLimit) (phase : Phase K) :
    Allows (stepInside waiting items c phase) t es ↔
      PhaseDemands waiting items (c :: t) es phase := by
  cases phase with
  | opened => exact allows_opened hroom
  | separated => exact allows_separated hroom
  | name chars => exact allows_name hroom chars
  | named n => exact allows_stepNamed hroom
  | sign => exact allows_sign
  | whole literal => exact allows_whole hroom literal
  | point literal => exact allows_point literal
  | fraction literal => exact allows_fraction hroom literal
  | string chars => exact allows_string chars
  | escape chars => exact allows_escape chars
  | complete => exact allows_stepComplete hroom

/-! ### Before and after the list -/

theorem derives_cons :
    Derives nestingLimit (c :: t) es ↔
      (Text.isBlank c = true ∧ Derives nestingLimit t es) ∨ (c = '(' ∧ Opened [] [] t es) := by
  constructor
  · rintro ⟨d, ht, rfl, hdepth⟩
    cases d with
    | none gap =>
        obtain ⟨text, blank⟩ := gap
        obtain rfl : text = c :: t := ht
        rw [List.all_cons, Bool.and_eq_true] at blank
        exact .inl ⟨blank.1, .none ⟨t, blank.2⟩, rfl, rfl, hdepth⟩
    | list gap l after =>
        rcases Blanks.append_eq_cons ht with ⟨rfl, hopen⟩ | ⟨hc, gap', rfl, rfl⟩
        · obtain ⟨rfl, rfl⟩ := List.cons.inj hopen
          refine .inr ⟨rfl, l, after.text, rfl, ?_, after.blank, rfl⟩
          rw [List.length_nil, Nat.zero_add]
          exact hdepth
        · exact .inl ⟨hc, .list gap' l after, rfl, rfl, hdepth⟩
  · rintro (⟨hc, d, rfl, rfl, hdepth⟩ | ⟨rfl, l, u, rfl, hdepth, hblank, rfl⟩)
    · cases d with
      | none gap => exact ⟨.none (gap.cons c hc), rfl, rfl, hdepth⟩
      | list gap l after => exact ⟨.list (gap.cons c hc) l after, rfl, rfl, hdepth⟩
    · rw [List.length_nil, Nat.zero_add] at hdepth
      exact ⟨.list .nil l ⟨u, hblank⟩, rfl, rfl, hdepth⟩

/-- One step takes one character off the text that a state demands. -/
theorem demands_cons (s : ReadState K) (hroom : s.depth ≤ nestingLimit) :
    Demands s (c :: t) es ↔ Allows (s.step c) t es := by
  cases s with
  | before =>
      rw [Demands, derives_cons, step]
      split
      · rename_i hblank
        have hopen : c ≠ '(' := Text.ne_of_isBlank hblank (by decide)
        simp [hblank, hopen, Demands]
      · rename_i hblank
        split
        · subst c
          simp [hblank, Demands, PhaseDemands]
        · rename_i hopen
          simp [hblank, hopen]
  | inside waiting items phase => exact (allows_stepInside hroom phase).symm
  | after items =>
      rw [Demands, step, List.all_cons, Bool.and_eq_true]
      split
      · rename_i hblank
        simp [hblank, Demands]
      · rename_i hblank
        simp [hblank]

end PluginForms.ReadState
