import PluginForms.Proofs.Scan.Parameters
import PluginForms.Proofs.Selector.Answers

/-!
The scanner of parameter lists gives the answer of the reader. Wherever the scanner is, there is a
state from which the reader comes to the answer that it comes to from the beginning, and each
function of the scanner goes from one such state to the next, or gives the error that the answer
is.
-/

namespace PluginForms

open Text (Stops)
open Grammar (Digits Number)

variable {K : Kind}

namespace Scan

open ReadState

variable {α : Type} {t rest : Text} {start : Nat} {c d e : Cursor} {b : Char}
  {ans : Except PluginError (List (Expression K))} {s s' : ReadState K}
  {waiting : List (Frame K)} {es : List (Expression K)}
  {Q : α → Cursor → Prop} {E : PluginError → Prop}

/-- The scanner has come from `c` to `d` and has as many lists open, and the reader comes to the
answer if it is in the state `s` there. -/
structure Tracks (t : Text) (ans : Except PluginError (List (Expression K))) (c : Cursor)
    (s : ReadState K) (d : Cursor) : Prop where
  depth_eq : d.depth = c.depth
  position_le : c.position ≤ d.position
  leads : ∃ rest, At t d.position rest ∧ s.answer t rest = ans

theorem Tracks.trans (h : Tracks t ans c s d) (h' : Tracks t ans d s' e) : Tracks t ans c s' e :=
  ⟨h'.depth_eq.trans h.depth_eq, Nat.le_trans h.position_le h'.position_le, h'.leads⟩

/-! ### Tokens -/

theorem ends_refuseAt {p : Nat} (hat : At t p (b :: rest))
    (h : E (Refusal.character.error t (b :: rest))) :
    Ends t start c (refuseAt t p : Scan α) Q E := by
  rw [Refusal.error, PluginError.atRest, hat.sub_length] at h
  rw [refuseAt, hat.getElem?]
  exact ends_refuse h

theorem ends_expect {wanted : Char} {expected : Text} (hat : At t c.position (b :: rest)) :
    Ends t start c (expect t wanted expected)
      (fun _ d => b = wanted ∧ d = ⟨c.position + 1, c.depth⟩)
      (fun e => b ≠ wanted ∧ e = Refusal.character.error t (b :: rest)) := by
  rw [expect, ends_peek hat]
  simp only [List.head?_cons]
  by_cases hb : b = wanted
  · rw [if_pos hb]
    exact (ends_forward hat).weaken fun _ _ hd => ⟨hb, hd⟩
  · rw [if_neg hb, ends_position]
    exact ends_refuseAt hat ⟨hb, rfl⟩

theorem ends_digits (hat : At t c.position rest) :
    Ends t start c (digits t) (fun _ d => ∃ (n : Digits) (rest' : Text), rest = n.text ++ rest' ∧
        Stops Text.isDigit rest' ∧ d = ⟨c.position + n.text.length, c.depth⟩)
      (fun e => Stops Text.isDigit rest ∧ e = .atRest t rest .digit) := by
  rw [digits, ends_peek hat]
  cases rest with
  | nil => exact ends_refuse ⟨Text.stops_nil, rfl⟩
  | cons b rest =>
      simp only [List.head?_cons]
      by_cases hb : Text.isDigit b = true
      · rw [if_pos hb]
        refine (ends_skipWhile hat).weaken ?_
        rintro - d ⟨run, rest', hrest, hrun, hstops, rfl⟩
        refine ⟨⟨run, hrun, ?_⟩, rest', hrest, hstops, rfl⟩
        rintro rfl
        rw [hstops b rest hrest.symm] at hb
        contradiction
      · rw [if_neg hb, ends_position]
        exact ends_refuseAt hat ⟨Text.stops_cons (Bool.eq_false_iff.mpr hb), rfl⟩

theorem ends_sign (hat : At t c.position rest) :
    Ends t start c (sign t) (fun _ d => ∃ negative rest', rest = Number.sign negative ++ rest' ∧
      (negative = false → rest'.head? ≠ some '-') ∧
      d = ⟨c.position + (Number.sign negative).length, c.depth⟩) E := by
  rw [sign, ends_peek hat]
  by_cases hhyphen : rest.head? = some '-'
  · rw [if_pos hhyphen]
    obtain ⟨rest', rfl⟩ := List.head?_eq_some_iff.mp hhyphen
    refine (ends_forward hat).weaken ?_
    rintro - d rfl
    exact ⟨true, rest', rfl, by simp, rfl⟩
  · rw [if_neg hhyphen]
    exact ends_pure ⟨false, rest, rfl, fun _ => hhyphen, rfl⟩

theorem ends_fraction (hat : At t c.position rest) (hstops : Stops Text.isDigit rest) :
    Ends t start c (fraction t) (fun _ d => ∃ (n : Option Digits) (rest' : Text),
        rest = Digits.fraction n ++ rest' ∧ Stops Text.isDigit rest' ∧
        (n = none → rest'.head? ≠ some '.') ∧
        d = ⟨c.position + (Digits.fraction n).length, c.depth⟩)
      (fun e => ∃ u, rest = '.' :: u ∧ Stops Text.isDigit u ∧ e = .atRest t u .digit) := by
  rw [fraction, ends_peek hat]
  by_cases hpoint : rest.head? = some '.'
  · rw [if_pos hpoint]
    obtain ⟨u, rfl⟩ := List.head?_eq_some_iff.mp hpoint
    refine (ends_forward hat).bind ?_
    rintro - d rfl
    refine (ends_digits hat.forward).mono ?_ fun e he => ⟨u, rfl, he⟩
    rintro - d ⟨n, rest', rfl, hstops', rfl⟩
    refine ⟨some n, rest', rfl, hstops', by simp, ?_⟩
    rw [Digits.fraction, List.length_cons, Nat.add_right_comm]
    rfl
  · rw [if_neg hpoint]
    exact ends_pure ⟨none, rest, rfl, hstops, fun _ => hpoint, rfl⟩

theorem ends_number (hat : At t c.position (b :: rest)) (hb : b = '-' ∨ Text.isDigit b = true)
    (h : (inside waiting es .separated).answer t (b :: rest) = ans) :
    Ends t start c (number t)
      (fun e d => Tracks t ans c (inside waiting (es ++ [e]) .complete) d)
      (fun e => ans = .error e) := by
  rw [number, ends_position]
  refine (ends_sign hat).bind ?_
  rintro - d ⟨negative, rest₁, hrest, hhyphen, rfl⟩
  rw [hrest] at hat h
  refine (ends_digits hat.append).bind_of (fun e he => ?_) ?_
  · -- no digit follows, so what the number begins with is a hyphen
    obtain ⟨hstops, rfl⟩ := he
    cases negative with
    | true => exact h.symm.trans ((answer_of_step rfl).trans (answer_sign hstops))
    | false =>
        obtain rfl : b :: rest = rest₁ := hrest
        rcases hb with rfl | hb
        · exact absurd rfl (hhyphen rfl)
        · rw [hstops b rest rfl] at hb
          contradiction
  rintro - d ⟨whole, rest₂, rfl, hstops, rfl⟩
  rw [answer_whole] at h
  refine (ends_fraction hat.append.append hstops).bind_of (fun e he => ?_) ?_
  · obtain ⟨u, rfl, hstops', rfl⟩ := he
    exact h.symm.trans ((answer_of_step rfl).trans (answer_point hstops'))
  rintro - d ⟨n, rest₃, rfl, hstops', hpoint, rfl⟩
  rw [answer_fraction n hstops' hpoint] at h
  have htext : Number.sign negative ++ (whole.text ++ (Digits.fraction n ++ rest₃)) =
      (Number.mk negative whole n).text ++ rest₃ := by
    simp only [Number.text, List.append_assoc]
  have hend := hat.append.append.append
  rw [htext] at hat
  refine (ends_slice hat hend).bind ?_
  rintro _ d ⟨rfl, rfl⟩
  simp only [Binary64.ofText?_text]
  refine ends_pure ⟨rfl, ?_, rest₃, hend, ?_⟩
  · simp only
    omega
  · rw [← h, Number.text, List.append_assoc]

theorem ends_advance (hat : At t c.position (b :: rest)) :
    Ends t start c (advance t) (fun r d => r = some b ∧ d = ⟨c.position + 1, c.depth⟩) E := by
  rw [advance, ends_peek hat]
  refine (ends_forward hat).bind ?_
  rintro - d rfl
  exact ends_pure ⟨rfl, rfl⟩

theorem tracks_step (hat : At t c.position (b :: rest)) (h : s.answer t (b :: rest) = ans)
    (hstep : s.step b = .ok s') : Tracks t ans c s' ⟨c.position + 1, c.depth⟩ :=
  ⟨rfl, Nat.le_succ _, rest, hat.forward, (answer_of_step hstep).symm.trans h⟩

theorem ends_escaped {chars : Text} (hat : At t c.position rest)
    (h : (inside waiting es (.escape chars)).answer t rest = ans) :
    Ends t start c (escaped t)
      (fun x d => Tracks t ans c (inside waiting es (.string (chars ++ [x]))) d)
      (fun e => ans = .error e) := by
  rw [escaped]
  cases rest with
  | nil =>
      rw [advance, bind_assoc, ends_peek hat]
      exact ends_refuse h.symm
  | cons b rest =>
      refine (ends_advance hat).bind ?_
      rintro _ d ⟨rfl, rfl⟩
      simp only
      cases hb : unescape? b with
      | some x =>
          refine ends_pure (tracks_step hat h ?_)
          rw [step, stepInside, hb]
      | none =>
          have hstep : (inside waiting es (.escape chars)).step b = .error .character := by
            rw [step, stepInside, hb]
          rw [answer_of_refusal hstep] at h
          -- the character is the one that was just passed
          rw [ends_position]
          refine (ends_less (Nat.succ_pos _)).bind ?_
          rintro m d ⟨hm, rfl⟩
          obtain rfl := Nat.succ.inj hm
          exact ends_refuseAt hat h.symm

theorem ends_stringRound {chars : Text} (hat : At t c.position rest)
    (h : (inside waiting es (.string chars)).answer t rest = ans) :
    Ends t start c (stringRound t chars) (fun r d => match r with
        | .inl chars' => c.position < d.position ∧
          Tracks t ans c (inside waiting es (.string chars')) d
        | .inr chars' => Tracks t ans c (inside waiting (es ++ [.string chars']) .complete) d)
      (fun e => ans = .error e) := by
  rw [stringRound]
  cases rest with
  | nil =>
      rw [advance, bind_assoc, ends_peek hat]
      exact ends_refuse h.symm
  | cons b rest =>
      refine (ends_advance hat).bind ?_
      rintro _ d ⟨rfl, rfl⟩
      simp only
      by_cases hquote : b = '"'
      · rw [if_pos hquote]
        exact ends_pure (tracks_step hat h (if_pos hquote))
      · rw [if_neg hquote]
        by_cases hbackslash : b = '\\'
        · rw [if_pos hbackslash]
          have hescape : Tracks t ans c (inside waiting es (.escape chars))
              ⟨c.position + 1, c.depth⟩ :=
            tracks_step hat h ((if_neg hquote).trans (if_pos hbackslash))
          obtain ⟨rest', hat', hans⟩ := hescape.leads
          refine (ends_escaped hat' hans).bind fun x d hd => ends_pure ?_
          exact ⟨hd.position_le, hescape.trans hd⟩
        · rw [if_neg hbackslash]
          exact ends_pure ⟨Nat.lt_succ_self _,
            tracks_step hat h ((if_neg hquote).trans (if_neg hbackslash))⟩

theorem ends_string (hat : At t c.position ('"' :: rest))
    (h : (inside waiting es .separated).answer t ('"' :: rest) = ans) :
    Ends t start c (string t)
      (fun e d => Tracks t ans c (inside waiting (es ++ [e]) .complete) d)
      (fun e => ans = .error e) := by
  rw [string]
  refine (ends_expect hat).bind_of (fun e he => absurd rfl he.1) ?_
  rintro - d ⟨-, rfl⟩
  have hopened : Tracks t ans c (inside waiting es (.string [])) ⟨c.position + 1, c.depth⟩ :=
    tracks_step hat h rfl
  refine (ends_loop (fun chars d => Tracks t ans c (inside waiting es (.string chars)) d) hopened
    ?_).bind fun chars d hd => ends_pure hd
  rintro chars d hd
  obtain ⟨rest', hat', hans⟩ := hd.leads
  refine (ends_stringRound hat' hans).weaken fun r d' hr => ?_
  cases r with
  | inl chars' => exact ⟨hr.1, hd.trans hr.2⟩
  | inr chars' => exact hd.trans hr

/-! ### Lists -/

/-- The scanner reads lists where `depth` lists are open: from behind the parenthesis that opens
one list more, unless that is one too many. -/
def ReadsLists (t : Text) (start : Nat) (ans : Except PluginError (List (Expression K)))
    (inner : Scan (List (Expression K))) (depth : Nat) : Prop :=
  ∀ (c : Cursor) (waiting : List (Frame K)) (rest : Text), c.depth = depth →
    waiting.length = depth → At t c.position rest →
    (depth < nestingLimit → (inside waiting [] .opened).answer t rest = ans) →
    (depth = nestingLimit →
      0 < c.position ∧ ans = .error (.nestingTooDeep t (c.position - 1))) →
    Ends t start c inner (fun es d => Tracks t ans c (close es waiting) d)
      (fun e => ans = .error e)

variable {inner : Scan (List (Expression K))}

theorem ends_expectInitial (hat : At t c.position (b :: rest)) (hb : isNameInitial b = true) :
    Ends t start c (expectInitial t) (fun _ d => d = ⟨c.position + 1, c.depth⟩) E := by
  rw [expectInitial, ends_peek hat]
  simp only [List.head?_cons, hb, if_true]
  exact ends_forward hat

/-- A run of name characters that begins with a letter can only be too long, and an error that
says so is about the run wherever it stands. -/
theorem ofText_within {chars : Text} (h : NameShaped chars) (position : Nat) :
    (Name.ofText chars : Except PluginError (Name K)).mapError (·.within t position) =
      Name.ofText chars := by
  obtain ⟨hname, hok⟩ | ⟨hname, herror⟩ := Name.ofText_cases (K := K) chars
  · rw [hok]
    rfl
  · rw [herror, h.nameFault_eq hname]
    rfl

theorem ends_callee (hat : At t c.position (b :: rest)) (hb : isNameInitial b = true)
    (h : (inside waiting es .separated).answer t (b :: rest) = ans) :
    Ends t start c (callee t) (fun n d => Tracks t ans c (inside waiting es (.named n)) d)
      (fun e => ans = .error e) := by
  rw [callee, ends_position]
  refine (ends_expectInitial hat hb).bind ?_
  rintro - d rfl
  refine (ends_skipWhile hat.forward).bind ?_
  rintro - d ⟨run, rest', rfl, hrun, hstops, rfl⟩
  rw [answer_name_run hb hrun] at h
  have hname : At t c.position ((b :: run) ++ rest') := hat
  have hend : At t (c.position + 1 + run.length) rest' := hat.forward.append
  refine (ends_slice hname hend).bind ?_
  rintro _ d ⟨rfl, rfl⟩
  have hshaped : NameShaped (b :: run) := ⟨hb, hrun⟩
  rw [ofText_within hshaped]
  refine ends_ofExcept.mono ?_ fun e he => ?_
  · rintro n d ⟨hn, rfl⟩
    rw [answer_name_end hn hstops] at h
    refine ⟨rfl, ?_, rest', hend, h⟩
    simp only
    omega
  · rw [answer_name_fault he hstops] at h
    exact h.symm

theorem ends_arguments {n : Name K}
    (hinner : ReadsLists t start ans inner (waiting.length + 1))
    (hdepth : c.depth = waiting.length + 1) (hat : At t c.position rest)
    (h : (inside waiting es (.named n)).answer t rest = ans) :
    Ends t start c (arguments inner t)
      (fun args d => Tracks t ans c (inside waiting (es ++ [.call n args]) .complete) d)
      (fun e => ans = .error e) := by
  refine ends_of_within fun hc => ?_
  rw [arguments, ends_position]
  refine (ends_skipWhile hat).bind ?_
  rintro - d ⟨gap, rest', rfl, hgap, hblank, rfl⟩
  rw [answer_blanks (by trivial) hgap] at h
  have hat' : At t (c.position + gap.length) rest' := hat.append
  rw [ends_peek hat']
  by_cases hlist : rest'.head? = some '('
  · rw [if_pos hlist]
    obtain ⟨u, rfl⟩ := List.head?_eq_some_iff.mp hlist
    refine (ends_forward hat').bind ?_
    rintro - d rfl
    have hroom : waiting.length + 1 < nestingLimit →
        (inside (⟨es, n⟩ :: waiting) [] .opened).answer t u = ans :=
      fun hroom => (answer_open hroom).symm.trans h
    have hfull : waiting.length + 1 = nestingLimit →
        ans = .error (.nestingTooDeep t (c.position + gap.length)) := by
      intro hlimit
      rw [answer_too_deep (Nat.le_of_eq hlimit.symm), hat'.sub_length] at h
      exact h.symm
    have hread := hinner ⟨c.position + gap.length + 1, c.depth⟩ (⟨es, n⟩ :: waiting) u hdepth rfl
      hat'.forward hroom fun hlimit => ⟨Nat.succ_pos _, hfull hlimit⟩
    have hpassed : c.position ≤ c.position + gap.length + 1 := by omega
    refine hread.weaken fun args d hd => ?_
    exact ⟨hd.depth_eq, Nat.le_trans hpassed hd.position_le, hd.leads⟩
  · -- the cursor goes back to the end of the name
    rw [if_neg hlist]
    have hcomplete := calc
      (inside waiting (es ++ [.call n []]) .complete).answer t (gap ++ rest')
        = (inside waiting (es ++ [.call n []]) .complete).answer t rest' :=
          answer_blanks (by trivial) hgap
      _ = (inside waiting es (.named n)).answer t rest' := (answer_named_end hblank hlist).symm
      _ = ans := h
    refine (ends_goTo hc.start_le hat.le_length).bind ?_
    rintro - d rfl
    exact ends_pure ⟨rfl, Nat.le_refl _, _, hat, hcomplete⟩

theorem ends_call (hinner : ReadsLists t start ans inner (waiting.length + 1))
    (hdepth : c.depth = waiting.length + 1) (hat : At t c.position (b :: rest))
    (hb : isNameInitial b = true)
    (h : (inside waiting es .separated).answer t (b :: rest) = ans) :
    Ends t start c (call inner t)
      (fun e d => Tracks t ans c (inside waiting (es ++ [e]) .complete) d)
      (fun e => ans = .error e) := by
  rw [call]
  refine (ends_callee hat hb h).bind fun n d hd => ?_
  obtain ⟨rest', hat', hans⟩ := hd.leads
  refine (ends_arguments hinner (hd.depth_eq.trans hdepth) hat' hans).bind fun args d' hd' => ?_
  exact ends_pure (hd.trans hd')

theorem ends_parameter (hinner : ReadsLists t start ans inner (waiting.length + 1))
    (hdepth : c.depth = waiting.length + 1) (hat : At t c.position rest)
    (hblank : Stops Text.isBlank rest)
    (h : (inside waiting es .separated).answer t rest = ans) :
    Ends t start c (parameter inner t)
      (fun e d => Tracks t ans c (inside waiting (es ++ [e]) .complete) d)
      (fun e => ans = .error e) := by
  rw [parameter, ends_peek hat]
  cases rest with
  | nil => exact ends_refuse h.symm
  | cons b rest =>
      simp only [List.head?_cons]
      by_cases hquote : b = '"'
      · rw [if_pos hquote]
        subst hquote
        exact ends_string hat h
      · rw [if_neg hquote]
        by_cases hnumber : b = '-' ∨ Text.isDigit b = true
        · rw [if_pos hnumber]
          exact ends_number hat hnumber h
        · rw [if_neg hnumber]
          by_cases hinitial : isNameInitial b = true
          · rw [if_pos hinitial]
            exact ends_call hinner hdepth hat hinitial h
          · rw [if_neg hinitial, ends_position]
            obtain ⟨hhyphen, hdigit⟩ := not_or.mp hnumber
            have hstep : (inside waiting es .separated).step b = .error .character := by
              rw [step_item (hblank b rest rfl), stepItem, if_neg hquote, if_neg hhyphen,
                if_neg hdigit, if_neg hinitial]
            exact ends_refuseAt hat ((answer_of_refusal hstep).symm.trans h).symm

theorem ends_itemRound (hinner : ReadsLists t start ans inner (waiting.length + 1))
    (hdepth : c.depth = waiting.length + 1) (hat : At t c.position rest)
    (h : (inside waiting es .separated).answer t rest = ans) :
    Ends t start c (itemRound inner t es) (fun r d => match r with
        | .inl es' => c.position < d.position ∧
          Tracks t ans c (inside waiting es' .separated) d
        | .inr es' => Tracks t ans c (close es' waiting) d)
      (fun e => ans = .error e) := by
  rw [itemRound]
  refine (ends_skipWhile hat).bind ?_
  rintro - d ⟨gap, rest₁, rfl, hgap, hblank, rfl⟩
  rw [answer_blanks (by trivial) hgap] at h
  have hparameter := ends_parameter (c := ⟨c.position + gap.length, c.depth⟩) hinner hdepth
    hat.append hblank h
  refine hparameter.bind fun e d hd => ?_
  obtain ⟨rest₂, hat₂, hans⟩ := hd.leads
  refine (ends_skipWhile hat₂).bind ?_
  rintro - d' ⟨gap', rest₃, rfl, hgap', hblank', rfl⟩
  rw [answer_blanks (by trivial) hgap'] at hans
  have hpassed : c.position ≤ d.position + gap'.length :=
    Nat.le_trans (Nat.le_add_right _ _) (Nat.le_trans hd.position_le (Nat.le_add_right _ _))
  have hat₃ : At t (d.position + gap'.length) rest₃ := hat₂.append
  rw [ends_peek hat₃]
  cases rest₃ with
  | nil => exact ends_refuse hans.symm
  | cons b rest₃ =>
      have hb : Text.isBlank b = false := hblank' b rest₃ rfl
      -- what is read goes on behind the separator, from where the parameter ended
      have hbehind : ∀ s : ReadState K, stepComplete waiting (es ++ [e]) b = .ok s →
          Tracks t ans c s ⟨d.position + gap'.length + 1, d.depth⟩ := by
        intro s hs
        have hstep : (inside waiting (es ++ [e]) .complete).step b = .ok s := hs
        exact ⟨hd.depth_eq, Nat.le_succ_of_le hpassed, rest₃, hat₃.forward,
          (answer_of_step hstep).symm.trans hans⟩
      rw [stepComplete, hb] at hbehind
      simp only [List.head?_cons]
      by_cases hcomma : b = ','
      · rw [if_pos hcomma]
        refine (ends_forward hat₃).bind ?_
        rintro - d rfl
        exact ends_pure ⟨Nat.lt_succ_of_le hpassed, hbehind _ (if_pos hcomma)⟩
      · rw [if_neg hcomma]
        by_cases hclose : b = ')'
        · rw [if_pos hclose]
          refine (ends_forward hat₃).bind ?_
          rintro - d rfl
          exact ends_pure (hbehind _ ((if_neg hcomma).trans (if_pos hclose)))
        · rw [if_neg hclose, ends_position]
          have hstep : (inside waiting (es ++ [e]) .complete).step b = .error .character := by
            rw [step, stepInside, stepComplete, hb]
            exact (if_neg hcomma).trans (if_neg hclose)
          exact ends_refuseAt hat₃ ((answer_of_refusal hstep).symm.trans hans).symm

theorem ends_items (hinner : ReadsLists t start ans inner (waiting.length + 1))
    (hdepth : c.depth = waiting.length + 1) (hat : At t c.position rest)
    (h : (inside waiting [] .opened).answer t rest = ans) :
    Ends t start c (items inner t) (fun es d => Tracks t ans c (close es waiting) d)
      (fun e => ans = .error e) := by
  rw [items]
  refine (ends_skipWhile hat).bind ?_
  rintro - d ⟨gap, rest', rfl, hgap, hblank, rfl⟩
  rw [answer_blanks (by trivial) hgap] at h
  have hat' : At t (c.position + gap.length) rest' := hat.append
  rw [ends_peek hat']
  by_cases hclose : rest'.head? = some ')'
  · rw [if_pos hclose]
    obtain ⟨u, rfl⟩ := List.head?_eq_some_iff.mp hclose
    have hstep : (inside waiting [] .opened).step ')' = .ok (close [] waiting) := rfl
    refine (ends_forward hat').bind ?_
    rintro - d rfl
    have hpassed : c.position ≤ c.position + gap.length + 1 := by omega
    exact ends_pure ⟨rfl, hpassed, u, hat'.forward, (answer_of_step hstep).symm.trans h⟩
  · rw [if_neg hclose]
    rw [answer_opened_eq hblank hclose] at h
    refine ends_loop (fun es d => Tracks t ans c (inside waiting es .separated) d)
      ⟨rfl, Nat.le_add_right _ _, rest', hat', h⟩ ?_
    intro es d hd
    obtain ⟨u, hat'', hans⟩ := hd.leads
    have hround := ends_itemRound hinner (hd.depth_eq.trans hdepth) hat'' hans
    refine hround.weaken fun r d' hr => ?_
    cases r with
    | inl es' => exact ⟨hr.1, hd.trans hr.2⟩
    | inr es' => exact hd.trans hr

/-- There are enough levels as long as more are left than lists may still be opened. -/
theorem readsLists_list (levels : Nat) {depth : Nat} (hlevels : nestingLimit < levels + depth)
    (hdepth : depth ≤ nestingLimit) : ReadsLists t start ans (list t levels) depth := by
  induction levels generalizing depth with
  | zero => omega
  | succ levels ih =>
      rintro c waiting rest rfl hwaiting hat hroom hfull
      rw [list, ends_cursor]
      by_cases hlimit : c.depth = nestingLimit
      · rw [if_pos hlimit]
        obtain ⟨hpos, hans⟩ := hfull hlimit
        refine (ends_less hpos).bind ?_
        rintro p d ⟨hp, rfl⟩
        obtain rfl : p = d.position - 1 := by omega
        exact ends_refuse hans
      · rw [if_neg hlimit]
        have hlt : c.depth < nestingLimit := Nat.lt_of_le_of_ne hdepth hlimit
        have hinner : ReadsLists t start ans (list t levels) (waiting.length + 1) :=
          ih (by omega) (by omega)
        refine (ends_moveTo (c := c) (d := ⟨c.position, c.depth + 1⟩) fun hc =>
          ⟨hc.start_le, hc.le_length, hlt⟩).bind ?_
        rintro - d rfl
        have hopen : c.depth + 1 = waiting.length + 1 := congrArg Nat.succ hwaiting.symm
        have hitems := ends_items (c := ⟨c.position, c.depth + 1⟩) hinner hopen hat (hroom hlt)
        refine hitems.bind fun es d hd => ?_
        have hd_depth : d.depth = c.depth + 1 := hd.depth_eq
        rw [ends_cursor]
        refine (ends_less (by omega)).bind ?_
        rintro m d' ⟨hm, rfl⟩
        obtain rfl : m = c.depth := by omega
        refine (ends_moveTo (c := d') (d := ⟨d'.position, c.depth⟩) fun hc =>
          ⟨hc.start_le, hc.le_length, hdepth⟩).bind ?_
        rintro - d'' rfl
        exact ends_pure ⟨rfl, hd.position_le, hd.leads⟩

/-- Wherever the scanner begins, it gives the answer that the reader comes to from there. -/
theorem gives_parameters (hat : At t start rest) (h : before.answer t rest = ans) :
    Gives t start ⟨start, 0⟩ (parameters t) ans := by
  rw [parameters]
  refine (ends_skipWhile hat).bind ?_
  rintro - d ⟨gap, rest₁, rfl, hgap, hblank, rfl⟩
  rw [answer_blanks (by trivial) hgap] at h
  have hat₁ : At t (start + gap.length) rest₁ := hat.append
  rw [ends_peek hat₁]
  cases rest₁ with
  | nil => exact ends_pure h.symm
  | cons b rest₁ =>
      simp only [List.head?_cons, reduceCtorEq, if_false]
      refine (ends_expect hat₁).bind_of (fun e he => ?_) ?_
      · obtain ⟨hb, rfl⟩ := he
        have hstep : (before : ReadState K).step b = .error .character := by
          rw [step, hblank b rest₁ rfl]
          exact if_neg hb
        exact h.symm.trans (answer_of_refusal hstep)
      rintro - d ⟨rfl, rfl⟩
      have hstep : (before : ReadState K).step '(' = .ok (inside [] [] .opened) := rfl
      rw [answer_of_step hstep] at h
      have hreads : ReadsLists t start ans (list t (nestingLimit + 1)) 0 :=
        readsLists_list (nestingLimit + 1) (by decide) (Nat.zero_le _)
      have hlist := hreads ⟨start + gap.length + 1, 0⟩ [] rest₁ rfl rfl hat₁.forward
        (fun _ => h) fun hlimit => absurd hlimit (by decide)
      refine hlist.bind fun es d hd => ?_
      obtain ⟨rest₂, hat₂, hans⟩ := hd.leads
      refine (ends_skipWhile hat₂).bind ?_
      rintro - d' ⟨gap', rest₃, rfl, hgap', hblank', rfl⟩
      rw [close, answer_blanks (by trivial) hgap'] at hans
      have hat₃ : At t (d.position + gap'.length) rest₃ := hat₂.append
      rw [ends_peek hat₃]
      cases rest₃ with
      | nil => exact ends_pure hans.symm
      | cons b rest₃ =>
          simp only [List.head?_cons, reduceCtorEq, if_false]
          have hstep : (after es : ReadState K).step b = .error .character := by
            rw [step, hblank' b rest₃ rfl]
            rfl
          rw [ends_position]
          exact ends_refuseAt hat₃ (hans.symm.trans (answer_of_refusal hstep))

end Scan

end PluginForms
