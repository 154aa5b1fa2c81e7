import PluginForms.Proofs.Selector.Completion
import PluginForms.Proofs.Selector.Progress

/-!
Where the errors of the reader point. A run stops at the first character that its state
refuses; the state before it is live, so what was read can still be completed, and with
that character it cannot. The one exception is a name that grew too long while it was
read, which is reported as a whole.
-/

namespace PluginForms

open Text (Nesting Quoting Stops)

variable {K : Kind}

namespace ReadState

variable {waiting : List (Frame K)} {items es : List (Expression K)} {c : Char}
  {s : ReadState K} {r : Refusal} {t pre post : Text}

/-! ### Refused characters -/

/-- What a refusal of `c` says of the state that refuses it. -/
inductive Refuses (c : Char) : ReadState K → Refusal → Prop
  | character {s : ReadState K} (hlive : s.Live) : Refuses c s .character
  | nesting {s : ReadState K} (hopen : c = '(') (hlive : s.Live)
      (houtside : s.nesting.quoting = .outside) (hfull : nestingLimit ≤ s.depth) :
      Refuses c s .nesting
  | name {waiting : List (Frame K)} {items : List (Expression K)} {chars : Text}
      (hend : isNamePart c = false) (hname : isName chars = false) :
      Refuses c (inside waiting items (.name chars)) (.name (nameFault chars))

theorem error_stepComplete (h : stepComplete waiting items c = .error r) : r = .character := by
  rw [stepComplete] at h
  repeat' split at h
  all_goals first | contradiction | exact (Except.error.inj h).symm

theorem error_stepItem (h : stepItem waiting items c = .error r) : r = .character := by
  rw [stepItem] at h
  repeat' split at h
  all_goals first | contradiction | exact (Except.error.inj h).symm

theorem error_stepNamed {n : Name K} {phase : Phase K}
    (h : stepNamed waiting items n c = .error r)
    (hlive : (inside waiting items phase).Live) (houtside : phase.quoting = .outside) :
    Refuses c (inside waiting items phase) r := by
  rw [stepNamed] at h
  split at h
  · contradiction
  · split at h
    · rename_i hopen
      split at h
      · contradiction
      · rename_i hfull
        cases h
        exact .nesting hopen hlive houtside (Nat.le_of_not_lt hfull)
    · obtain rfl := error_stepComplete h
      exact .character hlive

theorem error_stepInside {phase : Phase K} (h : stepInside waiting items c phase = .error r) :
    Refuses c (inside waiting items phase) r := by
  cases phase with
  | name chars =>
      rw [stepInside] at h
      split at h
      · contradiction
      · rename_i hend
        obtain ⟨hname, hofText⟩ | ⟨hname, hofText⟩ := (Name.ofText_cases chars : _ ∨ _)
        · rw [hofText] at h
          exact error_stepNamed h hname rfl
        · rw [hofText] at h
          cases h
          exact .name (Bool.eq_false_iff.mpr hend) hname
  | named n => exact error_stepNamed h trivial rfl
  | complete =>
      obtain rfl := error_stepComplete h
      exact .character trivial
  | _ =>
      -- these refuse characters only
      have hr : r = .character := by
        rw [stepInside] at h
        repeat' split at h
        all_goals first
          | contradiction
          | exact error_stepItem h
          | exact error_stepComplete h
          | exact (Except.error.inj h).symm
      subst hr
      exact .character trivial

theorem error_step (h : s.step c = .error r) : Refuses c s r := by
  cases s with
  | inside waiting items phase => exact error_stepInside h
  | _ =>
      have hr : r = .character := by
        rw [step] at h
        repeat' split at h
        all_goals first | contradiction | exact (Except.error.inj h).symm
      subst hr
      exact .character trivial

/-- What a refusal of the end of the text says of the state that refuses it. -/
inductive RefusesEnd : ReadState K → Refusal → Prop
  | endOfText {s : ReadState K} {expected : Expected} (hlive : s.Live) :
      RefusesEnd s (.endOfText expected)
  | name {waiting : List (Frame K)} {items : List (Expression K)} {chars : Text}
      (hname : isName chars = false) :
      RefusesEnd (inside waiting items (.name chars)) (.name (nameFault chars))

theorem error_finish (h : s.finish = .error r) : RefusesEnd s r := by
  cases s with
  | before => contradiction
  | after items => contradiction
  | inside waiting items phase =>
      cases phase with
      | name chars =>
          rw [finish] at h
          obtain ⟨hname, hofText⟩ | ⟨hname, hofText⟩ := (Name.ofText_cases chars : _ ∨ _)
          · rw [hofText] at h
            cases h
            exact .endOfText hname
          · rw [hofText] at h
            cases h
            exact .name hname
      | _ =>
          cases h
          exact .endOfText trivial

/-- A run that fails read everything up to the character that was refused. -/
theorem run_error {rest : Text} (h : s.run t = .error (r, rest)) :
    ∃ pre c post s', t = pre ++ c :: post ∧ rest = c :: post ∧ s.run pre = .ok s' ∧
      s'.step c = .error r := by
  induction t generalizing s with
  | nil => contradiction
  | cons c t ih =>
      rw [run] at h
      cases hstep : s.step c with
      | ok s₁ =>
          rw [hstep] at h
          obtain ⟨pre, d, post, s', rfl, hrest, hrun, hrefused⟩ := ih h
          refine ⟨c :: pre, d, post, s', rfl, hrest, ?_, hrefused⟩
          rw [run, hstep]
          exact hrun
      | error r₁ =>
          rw [hstep] at h
          cases h
          exact ⟨[], c, t, s, rfl, rfl, rfl, hstep⟩

end ReadState

/-! ### Continuations -/

/-- The part of the text from `start` on is a parameter list of the kind. -/
def Accepts (K : Kind) (text : Text) (start : Nat) : Prop :=
  ∃ es : List (Expression K), readParameters text start = .ok es

theorem accepts_iff_run {text : Text} {start : Nat} :
    Accepts K text start ↔ ∃ (s : ReadState K) (es : List (Expression K)),
      ReadState.before.run (text.drop start) = .ok s ∧ s.finish = .ok es := by
  constructor
  · rintro ⟨es, hread⟩
    have hderives := readParameters_eq_ok_iff.mp hread
    obtain ⟨s, hrun, hfinish⟩ :=
      (ReadState.demands_iff_run .before (Nat.zero_le _)).mp hderives
    exact ⟨s, es, hrun, hfinish⟩
  · rintro ⟨s, es, hrun, hfinish⟩
    refine ⟨es, ?_⟩
    rw [readParameters, hrun]
    exact ok_mapError_iff.mpr hfinish

/-- The reader begins where `head` ends. -/
theorem accepts_append_iff {head t : Text} :
    Accepts K (head ++ t) head.length ↔ ∃ (s : ReadState K) (es : List (Expression K)),
      ReadState.before.run t = .ok s ∧ s.finish = .ok es := by
  rw [accepts_iff_run, List.drop_left]

/-- What leads to a live state can be continued. -/
theorem exists_continuation (head : Text) {t : Text} {s : ReadState K}
    (hrun : ReadState.before.run t = .ok s) (hlive : s.Live) :
    ∃ u, Accepts K (head ++ t ++ u) head.length := by
  have hreads : ReadState.Reads t s := ReadState.reads_before.run hrun
  obtain ⟨u, s', es, hrest, hfinish⟩ := s.exists_run hreads.room hlive
  refine ⟨u, ?_⟩
  rw [List.append_assoc, accepts_append_iff]
  refine ⟨s', es, ?_, hfinish⟩
  rw [ReadState.run_append, hrun]
  exact hrest

/-- The text is right up to `position`, and wrong with the character there. -/
structure FirstFault (K : Kind) (text : Text) (start position : Nat) (c : Char) : Prop where
  start_le : start ≤ position
  lt_length : position < text.length
  character : text[position]? = some c
  viable : ∃ u, Accepts K (text.take position ++ u) start
  refused : ∀ u, ¬ Accepts K (text.take (position + 1) ++ u) start

/-- A live state that refuses a character makes it the first fault. -/
theorem firstFault {head pre post : Text} {c : Char} {s : ReadState K} {r : Refusal}
    (hrun : ReadState.before.run pre = .ok s) (hlive : s.Live) (hstep : s.step c = .error r) :
    FirstFault K (head ++ (pre ++ c :: post)) head.length (head.length + pre.length) c := by
  have htake : (head ++ (pre ++ c :: post)).take (head.length + pre.length) = head ++ pre := by
    rw [← List.append_assoc, List.take_left' List.length_append]
  have hnext : (head ++ (pre ++ c :: post)).take (head.length + pre.length + 1) =
      head ++ (pre ++ [c]) := by
    rw [List.append_cons pre c post, ← List.append_assoc, List.take_left']
    simp [Nat.add_assoc]
  refine ⟨Nat.le_add_right _ _, ?_, ?_, ?_, ?_⟩
  · simp
  · simp
  · rw [htake]
    exact exists_continuation head hrun hlive
  · intro u haccepts
    rw [hnext, List.append_assoc, accepts_append_iff] at haccepts
    obtain ⟨s', es, hall, -⟩ := haccepts
    rw [List.append_assoc, ReadState.run_append, hrun] at hall
    simp [ReadState.run, hstep] at hall

/-! ### Reports -/

/-- What an error says of the text that was read from `start` on. -/
inductive Reports (K : Kind) (text : Text) (start : Nat) : PluginError → Prop
  /-- The character at the position is the first that cannot be right. -/
  | character {c : Char} {position : Nat} (hfault : FirstFault K text start position c) :
      Reports K text start (.invalidCharacter text c position)
  /-- A list is opened while 64 lists are open. -/
  | nesting {position : Nat} (hfault : FirstFault K text start position '(')
      (hfull : Nesting.start.follow ((text.take position).drop start) = ⟨64, .outside⟩) :
      Reports K text start (.nestingTooDeep text position)
  /-- Something is missing at the end. -/
  | endOfText {expected : Expected} {u : Text} (hne : u ≠ [])
      (hviable : Accepts K (text ++ u) start) : Reports K text start (.endOfText text expected)
  /-- A maximal run of name characters is too long for a name. -/
  | length (before run after : Text) (htext : text = before ++ run ++ after)
      (hstart : start ≤ before.length) (hrun : run.all isNamePart = true)
      (hlong : 255 < run.length) (hbefore : Text.Breaks isNamePart before)
      (hafter : Stops isNamePart after) : Reports K text start (.invalidLength run)

theorem reports_length (head : Text) {pre after chars : Text} {waiting : List (Frame K)}
    {items : List (Expression K)} (hname : isName chars = false)
    (hplaced : ReadState.Placed pre (.inside waiting items (.name chars)))
    (hafter : Stops isNamePart after) :
    Reports K (head ++ (pre ++ after)) head.length (nameFault chars) := by
  obtain ⟨before, rfl, hbefore, hshaped⟩ := hplaced
  rw [hshaped.nameFault_eq hname]
  refine .length (head ++ before) chars after ?_ ?_ hshaped.all_isNamePart
    (hshaped.nameLimit_lt hname) (hbefore.append_left head) hafter
  · simp only [List.append_assoc]
  · rw [List.length_append]
    exact Nat.le_add_right _ _

theorem reports_of_run (head : Text) {t rest : Text} {r : Refusal}
    (h : (ReadState.before : ReadState K).run t = .error (r, rest)) :
    Reports K (head ++ t) head.length (r.error (head ++ t) rest) := by
  obtain ⟨pre, c, post, s, rfl, rfl, hrun, hstep⟩ := ReadState.run_error h
  have hreads : ReadState.Reads pre s := ReadState.reads_before.run hrun
  have hposition : (head ++ (pre ++ c :: post)).length - (c :: post).length =
      head.length + pre.length := by
    simp only [List.length_append]
    omega
  cases ReadState.error_step hstep with
  | character hlive =>
      rw [Refusal.error, PluginError.atRest, hposition]
      exact .character (firstFault hrun hlive hstep)
  | nesting hopen hlive houtside hfull =>
      subst hopen
      rw [Refusal.error, hposition]
      refine .nesting (firstFault hrun hlive hstep) ?_
      rw [← List.append_assoc, List.take_left' List.length_append, List.drop_left,
        hreads.nesting]
      have hdepth : s.nesting.depth = 64 := by
        rw [s.nesting_depth]
        exact Nat.le_antisymm hreads.room hfull
      rw [← hdepth, ← houtside]
  | name hend hname => exact reports_length head hname hreads.placed (Text.stops_cons hend)

theorem reports_of_finish (head : Text) {t : Text} {s : ReadState K} {r : Refusal}
    (hrun : ReadState.before.run t = .ok s) (h : s.finish = .error r) :
    Reports K (head ++ t) head.length (r.error (head ++ t) []) := by
  have hreads : ReadState.Reads t s := ReadState.reads_before.run hrun
  cases ReadState.error_finish h with
  | endOfText hlive =>
      obtain ⟨u, hviable⟩ := exists_continuation head hrun hlive
      refine .endOfText (fun hnil => ?_) hviable
      subst hnil
      rw [List.append_nil, accepts_append_iff] at hviable
      obtain ⟨s', es, hrun', hfinish⟩ := hviable
      obtain rfl := Except.ok.inj (hrun.symm.trans hrun')
      rw [h] at hfinish
      contradiction
  | name hname =>
      have hreport := reports_length head hname hreads.placed Text.stops_nil
      rwa [List.append_nil] at hreport

/-- The reader never fails on an empty rest, so it begins inside of the text. -/
theorem start_lt_length {text : Text} {start : Nat} {e : PluginError}
    (h : (readParameters text start : Except PluginError (List (Expression K))) = .error e) :
    start < text.length := by
  refine Nat.lt_of_not_le fun hle => ?_
  rw [readParameters, List.drop_eq_nil_of_le hle] at h
  contradiction

/-- An error names the first character that cannot be right, or the end of a text that can
be continued, or a name that is too long. -/
theorem errors_report_first_fault {K : Kind} {text : Text} {start : Nat} {e : PluginError}
    (h : (readParameters text start : Except PluginError (List (Expression K))) = .error e) :
    Reports K text start e := by
  have hlength : (text.take start).length = start :=
    List.length_take_of_le (Nat.le_of_lt (start_lt_length h))
  have htext : text.take start ++ text.drop start = text := List.take_append_drop start text
  rw [readParameters] at h
  cases hrun : (ReadState.before : ReadState K).run (text.drop start) with
  | error refused =>
      obtain ⟨r, rest⟩ := refused
      rw [hrun] at h
      obtain rfl := Except.error.inj h
      have hreport := reports_of_run (text.take start) hrun
      rwa [hlength, htext] at hreport
  | ok s =>
      rw [hrun] at h
      change s.finish.mapError (·.error text []) = .error e at h
      cases hfinish : s.finish with
      | ok es =>
          rw [hfinish] at h
          contradiction
      | error r =>
          rw [hfinish] at h
          obtain rfl := Except.error.inj h
          have hreport := reports_of_finish (text.take start) hrun hfinish
          rwa [hlength, htext] at hreport

/-- Where a parameter has to stand, a list is opened. -/
theorem errors_report_first_fault_in_list :
    (readParameters "f(g, (".toList 1 :
        Except PluginError (List (Expression ⟨"counter".toList, []⟩))) =
      .error (.invalidCharacter "f(g, (".toList '(' 5) ∧
    Reports ⟨"counter".toList, []⟩ "f(g, (".toList 1
      (.invalidCharacter "f(g, (".toList '(' 5) :=
  ⟨rfl, errors_report_first_fault rfl⟩

end PluginForms
