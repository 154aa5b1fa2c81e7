import PluginForms.Proofs.Selector.Moves

/-!
What a state of the reader says of the text that was read: how many lists are open in it,
whether it ends in a string literal, and that a name that is being read has something
before it that is no part of a name, so that it is a whole run of name characters.
-/

namespace PluginForms.ReadState

open Text (Nesting)

variable {K : Kind} {waiting : List (Frame K)} {items : List (Expression K)} {c : Char}
  {s s' : ReadState K} {t : Text}

/-! ### Open lists

The reader counts the lists it has open by the frames that wait, a nesting counts
parentheses; they agree because both skip what stands in string literals. -/

/-- The nesting of the text that leads to a state. -/
def nesting : ReadState K → Nesting
  | inside waiting _ phase => ⟨waiting.length + 1, phase.quoting⟩
  | _ => Nesting.start

@[simp] theorem nesting_inside {phase : Phase K} :
    (inside waiting items phase).nesting = ⟨waiting.length + 1, phase.quoting⟩ := rfl

theorem nesting_depth (s : ReadState K) : s.nesting.depth = s.depth := by
  cases s <;> rfl

theorem nesting_close : (close items waiting).nesting = ⟨waiting.length, .outside⟩ := by
  cases waiting <;> rfl

theorem nesting_step (h : s.step c = .ok s') : s'.nesting = s.nesting.step c := by
  cases moves_step h with
  | before hblank => exact (Nesting.step_of_isBlank hblank).symm
  | after items hblank => exact (Nesting.step_of_isBlank hblank).symm
  | first hopen =>
      subst hopen
      rfl
  | opens f hopen houtside hfree =>
      rw [nesting_inside, nesting_inside, houtside, hopen, Nesting.step_open]
      rfl
  | closes items' hclose houtside =>
      rw [nesting_close, nesting_inside, houtside, hclose, Nesting.step_close]
      rfl
  | goesOn items' hquoting hname => exact (hquoting _).symm

/-! ### Names

A name is begun after an opening parenthesis, a comma or a blank only, and taken as far
as its characters go. -/

/-- The text that was read leaves room for a name where one may begin, and ends with the
name that is being read. -/
def Placed (t : Text) : ReadState K → Prop
  | inside _ _ .opened | inside _ _ .separated => Text.Breaks isNamePart t
  | inside _ _ (.name chars) => ∃ before, t = before ++ chars ∧ Text.Breaks isNamePart before ∧
      NameShaped chars
  | _ => True

theorem placed_close : Placed t (close items waiting) := by
  cases waiting <;> exact trivial

theorem breaks_of_begins {phase : Phase K} (hbegins : phase.Begins)
    (ht : Placed t (inside waiting items phase)) : Text.Breaks isNamePart t := by
  cases phase <;> first | exact ht | contradiction

theorem placed_goesOn {items' : List (Expression K)} {phase phase' : Phase K}
    (hname : phase.NamedBy c phase') (ht : Placed t (inside waiting items phase)) :
    Placed (t ++ [c]) (inside waiting items' phase') := by
  cases phase' with
  | opened => exact Text.breaks_append t hname
  | separated => exact Text.breaks_append t hname
  | name chars =>
      obtain ⟨hbegins, rfl, hinitial⟩ | ⟨chars', rfl, rfl, hpart⟩ := hname
      · exact ⟨t, rfl, breaks_of_begins hbegins ht, hinitial, rfl⟩
      · obtain ⟨before, rfl, hbefore, hchars⟩ := ht
        exact ⟨before, List.append_assoc _ _ _, hbefore, hchars.append hpart⟩
  | _ => exact trivial

theorem placed_step (h : s.step c = .ok s') (ht : Placed t s) : Placed (t ++ [c]) s' := by
  cases moves_step h with
  | before hblank => exact trivial
  | after items hblank => exact trivial
  | first hopen =>
      subst hopen
      exact Text.breaks_append t rfl
  | opens f hopen houtside hfree =>
      subst hopen
      exact Text.breaks_append t rfl
  | closes items' hclose houtside => exact placed_close
  | goesOn items' hquoting hname => exact placed_goesOn hname ht

/-! ### Whole runs -/

/-- The state is one that the reader can be in after the text. -/
structure Reads (t : Text) (s : ReadState K) : Prop where
  room : s.depth ≤ nestingLimit
  nesting : Nesting.start.follow t = s.nesting
  placed : Placed t s

theorem reads_before : Reads [] (before : ReadState K) := ⟨Nat.zero_le _, rfl, trivial⟩

theorem Reads.step (hs : Reads t s) (h : s.step c = .ok s') : Reads (t ++ [c]) s' where
  room := depth_step h hs.room
  nesting := by rw [Nesting.follow_append, hs.nesting, nesting_step h]; rfl
  placed := placed_step h hs.placed

theorem run_cons_eq_ok_iff :
    s.run (c :: t) = .ok s' ↔ ∃ s₁, s.step c = .ok s₁ ∧ s₁.run t = .ok s' := by
  rw [ReadState.run]
  cases s.step c with
  | ok s₁ => simp
  | error r => simp

theorem Reads.run {u : Text} (hs : Reads t s) (h : s.run u = .ok s') : Reads (t ++ u) s' := by
  induction u generalizing t s with
  | nil =>
      obtain rfl := Except.ok.inj h
      rwa [List.append_nil]
  | cons c u ih =>
      obtain ⟨s₁, hstep, hrun⟩ := run_cons_eq_ok_iff.mp h
      rw [List.append_cons]
      exact ih (hs.step hstep) hrun

end PluginForms.ReadState
