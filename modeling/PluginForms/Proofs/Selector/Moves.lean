import PluginForms.Proofs.Text.Nesting
import PluginForms.Selector.Reading

/-!
What a step of the reader can do: open a list, close one, or go on in the innermost one.
Whatever a step keeps is a short look at these, so the limit on open lists is kept, since
a step opens one list at most and the step that would open one too many is refused.
-/

namespace PluginForms

open Text (Nesting Quoting)

variable {K : Kind}

/-- Where the phase is with respect to string literals. -/
def Phase.quoting : Phase K → Quoting
  | .string _ => .inside
  | .escape _ => .escaped
  | _ => .outside

/-- A parameter may begin. -/
def Phase.Begins : Phase K → Prop
  | .opened | .separated => True
  | _ => False

/-- The name that a phase is in was begun by `c` or goes on with it, and where a parameter
may begin `c` is no part of a name. -/
def Phase.NamedBy (phase : Phase K) (c : Char) : Phase K → Prop
  | .opened | .separated => isNamePart c = false
  | .name chars =>
    phase.Begins ∧ chars = [c] ∧ isNameInitial c = true ∨
      ∃ before, phase = .name before ∧ chars = before ++ [c] ∧ isNamePart c = true
  | _ => True

namespace ReadState

variable {waiting : List (Frame K)} {items items' : List (Expression K)} {phase : Phase K}
  {c : Char} {s s' : ReadState K}

/-- The reader may go from a state to another with the character `c`. -/
inductive Moves (c : Char) : ReadState K → ReadState K → Prop
  | before (hblank : Text.isBlank c = true) : Moves c before before
  | after (items : List (Expression K)) (hblank : Text.isBlank c = true) :
      Moves c (after items) (after items)
  | first (hopen : c = '(') : Moves c before (inside [] [] .opened)
  | opens {waiting : List (Frame K)} {items : List (Expression K)} {phase : Phase K} (f : Frame K)
      (hopen : c = '(') (houtside : phase.quoting = .outside)
      (hfree : waiting.length + 1 < nestingLimit) :
      Moves c (inside waiting items phase) (inside (f :: waiting) [] .opened)
  | closes {waiting : List (Frame K)} {items : List (Expression K)} {phase : Phase K}
      (items' : List (Expression K)) (hclose : c = ')') (houtside : phase.quoting = .outside) :
      Moves c (inside waiting items phase) (close items' waiting)
  | goesOn {waiting : List (Frame K)} {items : List (Expression K)} {phase : Phase K}
      (items' : List (Expression K)) {phase' : Phase K}
      (hquoting : ∀ d, (⟨d, phase.quoting⟩ : Nesting).step c = ⟨d, phase'.quoting⟩)
      (hname : phase.NamedBy c phase') :
      Moves c (inside waiting items phase) (inside waiting items' phase')

/-! ### Outside of string literals -/

theorem moves_outside {phase' : Phase K}
    (hplain : ∀ d, (⟨d, .outside⟩ : Nesting).step c = ⟨d, .outside⟩)
    (houtside : phase.quoting = .outside) (houtside' : phase'.quoting = .outside)
    (hname : phase.NamedBy c phase') :
    Moves c (inside waiting items phase) (inside waiting items' phase') := by
  refine .goesOn items' (fun d => ?_) hname
  rw [houtside, houtside']
  exact hplain d

theorem moves_of_isBlank {phase' : Phase K} (hblank : Text.isBlank c = true)
    (houtside : phase.quoting = .outside) (houtside' : phase'.quoting = .outside)
    (hname : phase.NamedBy c phase') :
    Moves c (inside waiting items phase) (inside waiting items' phase') :=
  moves_outside (fun _ => Nesting.step_of_isBlank hblank) houtside houtside' hname

theorem moves_of_isNamePart {phase' : Phase K} (hpart : isNamePart c = true)
    (houtside : phase.quoting = .outside) (houtside' : phase'.quoting = .outside)
    (hname : phase.NamedBy c phase') :
    Moves c (inside waiting items phase) (inside waiting items' phase') :=
  moves_outside (fun _ => Nesting.step_of_isNamePart hpart) houtside houtside' hname

theorem moves_stepComplete (h : stepComplete waiting items' c = .ok s')
    (houtside : phase.quoting = .outside) : Moves c (inside waiting items phase) s' := by
  rw [stepComplete] at h
  split at h
  · rename_i hblank
    cases h
    exact moves_of_isBlank hblank houtside rfl trivial
  · split at h
    · rename_i hcomma
      cases h
      subst hcomma
      exact moves_outside (fun _ => rfl) houtside rfl rfl
    · split at h
      · rename_i hclose
        cases h
        exact .closes items' hclose houtside
      · contradiction

theorem moves_stepNamed {n : Name K} (h : stepNamed waiting items n c = .ok s')
    (houtside : phase.quoting = .outside) : Moves c (inside waiting items phase) s' := by
  rw [stepNamed] at h
  split at h
  · rename_i hblank
    cases h
    exact moves_of_isBlank hblank houtside rfl trivial
  · split at h
    · rename_i hopen
      split at h
      · rename_i hfree
        cases h
        exact .opens ⟨items, n⟩ hopen houtside hfree
      · contradiction
    · exact moves_stepComplete h houtside

theorem moves_stepItem (h : stepItem waiting items c = .ok s') (hbegins : phase.Begins) :
    Moves c (inside waiting items phase) s' := by
  have houtside : phase.quoting = .outside := by
    cases phase <;> first | rfl | contradiction
  rw [stepItem] at h
  split at h
  · rename_i hquote
    cases h
    subst hquote
    refine .goesOn items (fun d => ?_) trivial
    rw [houtside, Nesting.step_quote]
    rfl
  · split at h
    · rename_i hhyphen
      cases h
      subst hhyphen
      exact moves_outside (fun _ => rfl) houtside rfl trivial
    · split at h
      · rename_i hdigit
        cases h
        exact moves_of_isNamePart (isNamePart_of_isDigit hdigit) houtside rfl trivial
      · split at h
        · rename_i hinitial
          cases h
          exact moves_of_isNamePart (isNamePart_of_isNameInitial hinitial) houtside rfl
            (.inl ⟨hbegins, rfl, hinitial⟩)
        · contradiction

/-! ### All states -/

theorem moves_stepInside (h : stepInside waiting items c phase = .ok s') :
    Moves c (inside waiting items phase) s' := by
  have hdigit {phase' : Phase K} (hc : Text.isDigit c = true) (houtside : phase.quoting = .outside)
      (houtside' : phase'.quoting = .outside) (hname : phase.NamedBy c phase') :
      Moves c (inside waiting items phase) (inside waiting items phase') :=
    moves_of_isNamePart (isNamePart_of_isDigit hc) houtside houtside' hname
  cases phase with
  | opened =>
      rw [stepInside] at h
      split at h
      · rename_i hblank
        cases h
        exact moves_of_isBlank hblank rfl rfl (isNamePart_of_isBlank hblank)
      · split at h
        · rename_i hclose
          cases h
          exact .closes items hclose rfl
        · exact moves_stepItem h trivial
  | separated =>
      rw [stepInside] at h
      split at h
      · rename_i hblank
        cases h
        exact moves_of_isBlank hblank rfl rfl (isNamePart_of_isBlank hblank)
      · exact moves_stepItem h trivial
  | name chars =>
      rw [stepInside] at h
      split at h
      · rename_i hpart
        cases h
        exact moves_of_isNamePart hpart rfl rfl (.inr ⟨chars, rfl, rfl, hpart⟩)
      · split at h
        · exact moves_stepNamed h rfl
        · contradiction
  | named n => exact moves_stepNamed h rfl
  | sign =>
      rw [stepInside] at h
      split at h
      · rename_i hc
        cases h
        exact hdigit hc rfl rfl trivial
      · contradiction
  | whole literal =>
      rw [stepInside] at h
      split at h
      · rename_i hc
        cases h
        exact hdigit hc rfl rfl trivial
      · split at h
        · rename_i hpoint
          cases h
          subst hpoint
          exact .goesOn items (fun _ => rfl) trivial
        · exact moves_stepComplete h rfl
  | point literal =>
      rw [stepInside] at h
      split at h
      · rename_i hc
        cases h
        exact hdigit hc rfl rfl trivial
      · contradiction
  | fraction literal =>
      rw [stepInside] at h
      split at h
      · rename_i hc
        cases h
        exact hdigit hc rfl rfl trivial
      · exact moves_stepComplete h rfl
  | string chars =>
      rw [stepInside] at h
      split at h
      · rename_i hquote
        cases h
        subst hquote
        exact .goesOn _ (fun _ => Nesting.step_quote_of_inside) trivial
      · split at h
        · rename_i hbackslash
          cases h
          subst hbackslash
          exact .goesOn items (fun _ => Nesting.step_backslash_of_inside) trivial
        · rename_i hquote hbackslash
          cases h
          exact .goesOn items (fun _ => Nesting.step_of_inside hquote hbackslash) trivial
  | escape chars =>
      rw [stepInside] at h
      split at h
      · cases h
        exact .goesOn items (fun _ => Nesting.step_of_escaped) trivial
      · contradiction
  | complete => exact moves_stepComplete h rfl

/-- A step is one of the moves. -/
theorem moves_step (h : s.step c = .ok s') : Moves c s s' := by
  cases s with
  | before =>
      rw [step] at h
      split at h
      · rename_i hblank
        cases h
        exact .before hblank
      · split at h
        · rename_i hopen
          cases h
          exact .first hopen
        · contradiction
  | inside waiting items phase => exact moves_stepInside h
  | after items =>
      rw [step] at h
      split at h
      · rename_i hblank
        cases h
        exact .after items hblank
      · contradiction

/-! ### The limit -/

theorem depth_close : (close items waiting).depth ≤ waiting.length := by
  cases waiting with
  | nil => exact Nat.le_refl 0
  | cons f waiting => exact Nat.le_refl _

/-- No step opens more lists than the limit allows. -/
theorem depth_step (h : s.step c = .ok s') (hroom : s.depth ≤ nestingLimit) :
    s'.depth ≤ nestingLimit := by
  cases moves_step h with
  | before hblank => exact hroom
  | after items hblank => exact hroom
  | first hopen => exact show 1 ≤ nestingLimit by decide
  | opens f hopen houtside hfree => exact hfree
  | closes items' hclose houtside =>
      exact Nat.le_trans depth_close (Nat.le_of_succ_le hroom)
  | goesOn items' hquoting hname => exact hroom

end ReadState

end PluginForms
