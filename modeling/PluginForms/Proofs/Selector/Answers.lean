import PluginForms.Proofs.Number.Decimal
import PluginForms.Selector.Reading

/-!
What the reader of parameter lists makes of the rest of a text depends on the state it is in and on
that rest. Here the rest is taken one token at a time: from a state that waits for a token, the
reader comes to the same answer as from the state behind that token, and where no such token
follows, the answer is the error that says so.
-/

namespace PluginForms

open Text (Stops)
open Grammar (Digits Number)

variable {K : Kind}

namespace ReadState

variable {t rest run gap : Text} {c : Char} {s s' : ReadState K} {r : Refusal}
  {waiting : List (Frame K)} {items : List (Expression K)}

/-- What the reader makes of the rest of `t`, from the state `s` on. -/
def answer (t : Text) (s : ReadState K) (rest : Text) : Except PluginError (List (Expression K)) :=
  match s.run rest with
  | .error (r, left) => .error (r.error t left)
  | .ok s => s.finish.mapError (·.error t [])

theorem answer_nil : s.answer t [] = s.finish.mapError (·.error t []) := rfl

theorem answer_of_step (h : s.step c = .ok s') : s.answer t (c :: rest) = s'.answer t rest := by
  rw [answer, run, h]
  rfl

theorem answer_of_refusal (h : s.step c = .error r) :
    s.answer t (c :: rest) = .error (r.error t (c :: rest)) := by
  rw [answer, run, h]

/-- States that do the same next come to the same answer. -/
theorem answer_congr (hnil : rest = [] → s.finish = s'.finish)
    (hcons : ∀ c u, rest = c :: u → s.step c = s'.step c) : s.answer t rest = s'.answer t rest := by
  cases rest with
  | nil => rw [answer_nil, answer_nil, hnil rfl]
  | cons c rest => rw [answer, answer, run, run, hcons c rest rfl]

/-- A run of characters that are only collected. -/
theorem answer_run {p : Char → Bool} (f : Text → ReadState K)
    (hf : ∀ chars c, p c = true → (f chars).step c = .ok (f (chars ++ [c])))
    (hrun : run.all p = true) (chars : Text) :
    (f chars).answer t (run ++ rest) = (f (chars ++ run)).answer t rest := by
  induction run generalizing chars with
  | nil => rw [List.nil_append, List.append_nil]
  | cons c run ih =>
      rw [List.all_cons, Bool.and_eq_true] at hrun
      rw [List.cons_append, answer_of_step (hf chars c hrun.1), ih hrun.2, List.append_assoc]
      rfl

/-- Nothing that follows is what the state waits for. -/
theorem answer_of_stuck {expected : Expected} (hnil : s.finish = .error (.endOfText expected))
    (hcons : ∀ c u, rest = c :: u → s.step c = .error .character) :
    s.answer t rest = .error (.atRest t rest expected) := by
  cases rest with
  | nil =>
      rw [answer_nil, hnil]
      rfl
  | cons c rest => exact answer_of_refusal (hcons c rest rfl)

theorem ne_of_head? {u : Text} {d : Char} (h : rest.head? ≠ some d) (hrest : rest = c :: u) :
    c ≠ d := by
  rintro rfl
  exact h (by rw [hrest]; rfl)

/-! ### White space -/

/-- Not in the middle of a token: white space that follows is passed over. -/
def BetweenTokens : ReadState K → Prop
  | before => True
  | after _ => True
  | inside _ _ phase =>
    match phase with
    | .opened | .separated | .named _ | .complete => True
    | _ => False

theorem step_blank (hs : s.BetweenTokens) (hc : Text.isBlank c = true) : s.step c = .ok s := by
  cases s with
  | before => exact if_pos hc
  | after items => exact if_pos hc
  | inside waiting items phase =>
      cases phase with
      | opened | separated | named n | complete => exact if_pos hc
      | name | sign | whole | point | fraction | string | escape => exact hs.elim

theorem answer_blanks (hs : s.BetweenTokens) (hgap : gap.all Text.isBlank = true) :
    s.answer t (gap ++ rest) = s.answer t rest :=
  answer_run (fun _ => s) (fun _ _ hc => step_blank hs hc) hgap []

/-- Where the list does not end, a parameter has to follow even if it is the first one. -/
theorem answer_opened_eq (hblank : Stops Text.isBlank rest) (hclose : rest.head? ≠ some ')') :
    (inside waiting items .opened).answer t rest =
      (inside waiting items .separated).answer t rest := by
  refine answer_congr (fun _ => rfl) fun c u hrest => ?_
  have hc : c ≠ ')' := ne_of_head? hclose hrest
  rw [step, step, stepInside, stepInside, hblank c u hrest, if_neg hc]
  rfl

/-! ### Numbers -/

theorem stepItem_digit (hc : Text.isDigit c = true) :
    stepItem waiting items c = .ok (inside waiting items (.whole [c])) := by
  have hquote : c ≠ '"' := Binary64.ne_of_isDigit hc (by decide)
  have hhyphen : c ≠ '-' := Binary64.ne_of_isDigit hc (by decide)
  rw [stepItem, if_neg hquote, if_neg hhyphen, if_pos hc]

theorem step_item (hc : Text.isBlank c = false) :
    (inside waiting items .separated).step c = stepItem waiting items c := by
  rw [step, stepInside, hc]
  rfl

theorem answer_more_digits (literal : Text) (hrun : run.all Text.isDigit = true) :
    (inside waiting items (.whole literal)).answer t (run ++ rest) =
      (inside waiting items (.whole (literal ++ run))).answer t rest :=
  answer_run (fun literal => inside waiting items (.whole literal)) (fun _ _ hc => if_pos hc)
    hrun literal

theorem answer_whole (negative : Bool) (n : Digits) :
    (inside waiting items .separated).answer t (Number.sign negative ++ (n.text ++ rest)) =
      (inside waiting items (.whole (Number.sign negative ++ n.text))).answer t rest := by
  obtain ⟨c, u, hn, hc⟩ := n.exists_cons
  have hdigits := n.digits
  rw [hn, List.all_cons, Bool.and_eq_true] at hdigits
  have hblank : Text.isBlank c = false := isBlank_of_isNamePart (isNamePart_of_isDigit hc)
  rw [hn, List.cons_append]
  cases negative with
  | true =>
      have hsign : (inside waiting items .separated).step '-' = .ok (inside waiting items .sign) :=
        rfl
      have hfirst : (inside waiting items .sign).step c =
          .ok (inside waiting items (.whole ['-', c])) := if_pos hc
      exact ((answer_of_step hsign).trans (answer_of_step hfirst)).trans
        (answer_more_digits _ hdigits.2)
  | false =>
      have hfirst : (inside waiting items .separated).step c =
          .ok (inside waiting items (.whole [c])) :=
        (step_item hblank).trans (stepItem_digit hc)
      exact (answer_of_step hfirst).trans (answer_more_digits _ hdigits.2)

/-- A number that is not gone on with is complete. -/
theorem answer_number_end {phase : Phase K} {literal : Text}
    (hnil : (inside waiting items phase).finish = .error (.endOfText .separator))
    (hcons : ∀ c u, rest = c :: u → stepInside waiting items c phase =
      stepComplete waiting (items ++ [.number (.ofLiteral literal)]) c) :
    (inside waiting items phase).answer t rest =
      (inside waiting (items ++ [.number (.ofLiteral literal)]) .complete).answer t rest :=
  answer_congr (fun _ => hnil) hcons

theorem answer_fraction {literal : Text} (n : Option Digits)
    (hstops : Stops Text.isDigit rest) (hpoint : n = none → rest.head? ≠ some '.') :
    (inside waiting items (.whole literal)).answer t (Digits.fraction n ++ rest) =
      (inside waiting (items ++ [.number (.ofLiteral (literal ++ Digits.fraction n))])
        .complete).answer t rest := by
  cases n with
  | none =>
      rw [Digits.fraction, List.nil_append, List.append_nil]
      refine answer_number_end rfl fun c u hrest => ?_
      have hc : c ≠ '.' := ne_of_head? (hpoint rfl) hrest
      rw [stepInside, hstops c u hrest, if_neg hc]
      rfl
  | some n =>
      obtain ⟨c, u, hn, hc⟩ := n.exists_cons
      have hdigits := n.digits
      rw [hn, List.all_cons, Bool.and_eq_true] at hdigits
      have hpoint : (inside waiting items (.whole literal)).step '.' =
          .ok (inside waiting items (.point (literal ++ ['.']))) := rfl
      have hfirst : (inside waiting items (.point (literal ++ ['.']))).step c =
          .ok (inside waiting items (.fraction (literal ++ ['.'] ++ [c]))) := if_pos hc
      have hmore : ∀ literal, (inside waiting items (.fraction literal)).answer t (u ++ rest) =
          (inside waiting items (.fraction (literal ++ u))).answer t rest :=
        answer_run (fun literal => inside waiting items (.fraction literal))
          (fun _ _ hc => if_pos hc) hdigits.2
      have hliteral : literal ++ Digits.fraction (some n) = literal ++ ['.'] ++ [c] ++ u := by
        rw [Digits.fraction, hn]
        simp
      rw [hliteral, Digits.fraction, hn, List.cons_append, List.cons_append,
        answer_of_step hpoint, answer_of_step hfirst, hmore]
      refine answer_number_end rfl fun c u hrest => ?_
      rw [stepInside, hstops c u hrest]
      rfl

/-- A hyphen and a point have to be followed by a digit. -/
theorem answer_sign (hstops : Stops Text.isDigit rest) :
    (inside waiting items .sign).answer t rest = .error (.atRest t rest .digit) := by
  refine answer_of_stuck rfl fun c u hrest => ?_
  rw [step, stepInside, hstops c u hrest]
  rfl

theorem answer_point {literal : Text} (hstops : Stops Text.isDigit rest) :
    (inside waiting items (.point literal)).answer t rest = .error (.atRest t rest .digit) := by
  refine answer_of_stuck rfl fun c u hrest => ?_
  rw [step, stepInside, hstops c u hrest]
  rfl

/-! ### Names -/

/-- Letters and digits are collected to a name. -/
theorem answer_name_run (hc : isNameInitial c = true) (hrun : run.all isNamePart = true) :
    (inside waiting items .separated).answer t (c :: (run ++ rest)) =
      (inside waiting items (.name (c :: run))).answer t rest := by
  have hblank : Text.isBlank c = false := isBlank_of_isNamePart (isNamePart_of_isNameInitial hc)
  have hdigit : Text.isDigit c = false := by
    refine Bool.eq_false_iff.mpr fun hd => ?_
    rw [isNameInitial_of_isDigit hd] at hc
    contradiction
  have hquote : c ≠ '"' := by
    rintro rfl
    contradiction
  have hhyphen : c ≠ '-' := by
    rintro rfl
    contradiction
  have hfirst : (inside waiting items .separated).step c =
      .ok (inside waiting items (.name [c])) := by
    rw [step_item hblank, stepItem, if_neg hquote, if_neg hhyphen, hdigit, hc]
    rfl
  rw [answer_of_step hfirst]
  exact answer_run (fun chars => inside waiting items (.name chars)) (fun _ _ hc => if_pos hc)
    hrun [c]

theorem answer_name_end {chars : Text} {n : Name K} (hn : Name.ofText chars = .ok n)
    (hstops : Stops isNamePart rest) :
    (inside waiting items (.name chars)).answer t rest =
      (inside waiting items (.named n)).answer t rest := by
  refine answer_congr (fun _ => ?_) fun c u hrest => ?_
  · rw [finish, hn]
    rfl
  · rw [step, stepInside, hstops c u hrest, hn]
    rfl

theorem answer_name_fault {chars : Text} {e : PluginError}
    (he : (Name.ofText chars : Except PluginError (Name K)) = .error e)
    (hstops : Stops isNamePart rest) :
    (inside waiting items (.name chars)).answer t rest = .error e := by
  cases rest with
  | nil =>
      rw [answer_nil, finish, he]
      rfl
  | cons c rest =>
      have hc : isNamePart c = false := hstops c rest rfl
      have hstep : (inside waiting items (.name chars)).step c = .error (.name e) := by
        rw [step, stepInside, hc, he]
        rfl
      rw [answer_of_refusal hstep]
      rfl

/-- The name of a call without a list. -/
theorem answer_named_end {n : Name K} (hblank : Stops Text.isBlank rest)
    (hopen : rest.head? ≠ some '(') :
    (inside waiting items (.named n)).answer t rest =
      (inside waiting (items ++ [.call n []]) .complete).answer t rest := by
  refine answer_congr (fun _ => rfl) fun c u hrest => ?_
  have hc : c ≠ '(' := ne_of_head? hopen hrest
  rw [step, step, stepInside, stepInside, stepNamed, hblank c u hrest, if_neg hc]
  rfl

/-! ### Lists of calls -/

theorem answer_open {n : Name K} (hroom : waiting.length + 1 < nestingLimit) :
    (inside waiting items (.named n)).answer t ('(' :: rest) =
      (inside (⟨items, n⟩ :: waiting) [] .opened).answer t rest := by
  have hstep : (inside waiting items (.named n)).step '(' =
      .ok (inside (⟨items, n⟩ :: waiting) [] .opened) := if_pos hroom
  exact answer_of_step hstep

theorem answer_too_deep {n : Name K} (hfull : nestingLimit ≤ waiting.length + 1) :
    (inside waiting items (.named n)).answer t ('(' :: rest) =
      .error (.nestingTooDeep t (t.length - ('(' :: rest).length)) := by
  have hstep : (inside waiting items (.named n)).step '(' = .error .nesting :=
    if_neg (Nat.not_lt_of_le hfull)
  exact answer_of_refusal hstep

end ReadState

end PluginForms
