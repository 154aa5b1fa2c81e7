import PluginForms.Proofs.Selector.Progress
import PluginForms.Proofs.Selector.Reading
import PluginForms.Proofs.Text.Words

/-!
The list in a text of parameters. The reader has all its lists closed exactly where no
parenthesis is open, so what it takes for a list is a balanced text, and only white space stands
around it.
-/

namespace PluginForms

open Text (Nesting)

variable {K : Kind}

/-- The text is one list: the reader opens it with the first character and is out of it after
the last one. -/
def ReadsList (list : Text) (es : List (Expression K)) : Prop :=
  ∃ body, list = '(' :: (body ++ [')']) ∧
    (ReadState.inside [] [] .opened).run (body ++ [')']) = .ok (.after es)

namespace ReadState

variable {s s' : ReadState K} {c : Char} {t : Text} {es : List (Expression K)}

theorem blank_of_run_after (h : (after es).run t = .ok s') :
    t.all Text.isBlank = true ∧ s' = after es := by
  induction t with
  | nil => exact ⟨rfl, (Except.ok.inj h).symm⟩
  | cons c t ih =>
      obtain ⟨s₁, hstep, hrun⟩ := run_cons_eq_ok_iff.mp h
      cases moves_step hstep with
      | after _ hblank =>
          obtain ⟨ht, rfl⟩ := ih hrun
          exact ⟨by rw [List.all_cons, hblank, ht]; rfl, rfl⟩

/-- The last list is closed by a parenthesis. -/
theorem closes_of_step (h : s.step c = .ok s') (hdeep : s.depth ≠ 0) (htop : s'.depth = 0) :
    c = ')' ∧ ∃ es, s' = after es := by
  cases moves_step h with
  | before hblank => exact absurd rfl hdeep
  | after items hblank => exact absurd rfl hdeep
  | first hopen => contradiction
  | opens f hopen houtside hfree => contradiction
  | @closes waiting items phase items' hclose houtside =>
      cases waiting with
      | nil => exact ⟨hclose, items', rfl⟩
      | cons f waiting => contradiction
  | goesOn items' hquoting hname => contradiction

/-- A run out of all lists reads a balanced text, and then white space. -/
theorem exists_list_of_run (h : s.run t = .ok s') (hdeep : s.depth ≠ 0) (htop : s'.depth = 0) :
    ∃ body gap es, t = body ++ ')' :: gap ∧ gap.all Text.isBlank = true ∧ s' = after es ∧
      s.run (body ++ [')']) = .ok (after es) ∧
      s.nesting.splitBalanced (body ++ [')']) = some (body ++ [')'], []) := by
  induction t generalizing s with
  | nil =>
      obtain rfl := Except.ok.inj h
      contradiction
  | cons c t ih =>
      obtain ⟨s₁, hstep, hrun⟩ := run_cons_eq_ok_iff.mp h
      have hnesting : (s.nesting.step c).depth = s₁.depth := by
        rw [← nesting_step hstep, nesting_depth]
      by_cases hout : s₁.depth = 0
      · obtain ⟨rfl, es, rfl⟩ := closes_of_step hstep hdeep hout
        obtain ⟨hblank, rfl⟩ := blank_of_run_after hrun
        refine ⟨[], t, es, rfl, hblank, rfl, run_cons_eq_ok_iff.mpr ⟨_, hstep, rfl⟩, ?_⟩
        rw [List.nil_append, Nesting.splitBalanced, if_pos (hnesting.trans hout)]
      · obtain ⟨body, gap, es, rfl, hblank, rfl, hbody, hsplit⟩ := ih hrun hout
        refine ⟨c :: body, gap, es, rfl, hblank, rfl, run_cons_eq_ok_iff.mpr ⟨_, hstep, hbody⟩, ?_⟩
        rw [nesting_step hstep] at hsplit
        rw [List.cons_append, Nesting.splitBalanced, if_neg (hnesting.trans_ne hout), hsplit]
        rfl

theorem exists_opening_of_run (h : (before : ReadState K).run t = .ok s) :
    t.all Text.isBlank = true ∧ s = before ∨
      ∃ gap rest, t = gap ++ '(' :: rest ∧ gap.all Text.isBlank = true ∧
        (inside [] [] .opened).run rest = .ok s := by
  induction t with
  | nil => exact .inl ⟨rfl, (Except.ok.inj h).symm⟩
  | cons c t ih =>
      obtain ⟨s₁, hstep, hrun⟩ := run_cons_eq_ok_iff.mp h
      cases moves_step hstep with
      | before hblank =>
          obtain ⟨ht, rfl⟩ | ⟨gap, rest, rfl, hgap, hrest⟩ := ih hrun
          · exact .inl ⟨by rw [List.all_cons, hblank, ht]; rfl, rfl⟩
          · exact .inr ⟨c :: gap, rest, rfl, by rw [List.all_cons, hblank, hgap]; rfl, hrest⟩
      | first hopen =>
          subst hopen
          exact .inr ⟨[], t, rfl, rfl, hrun⟩

theorem depth_of_finish (h : s.finish = .ok es) : s.depth = 0 := by
  cases s with
  | before => rfl
  | after items => rfl
  | inside waiting items phase => exact absurd h (finish_inside_ne phase)

end ReadState

variable {list text : Text} {es : List (Expression K)}

theorem ReadsList.breaks (h : ReadsList list es) : Text.Breaks Text.isBlank list := by
  obtain ⟨body, rfl, -⟩ := h
  exact Text.breaks_append ('(' :: body) rfl

/-- What the reader takes for a list has balanced parentheses. -/
theorem ReadsList.balanced (h : ReadsList list es) : Nesting.Balanced list := by
  obtain ⟨body, rfl, hrun⟩ := h
  obtain ⟨body', gap, es', hsplit, hgap, -, -, hbalanced⟩ :=
    ReadState.exists_list_of_run hrun (Nat.succ_ne_zero 0) rfl
  -- nothing follows the parenthesis that closes the list, since the text ends with one
  have hends (body : Text) : Text.Breaks Text.isBlank (body ++ [')']) := Text.breaks_append body rfl
  have hbody : body ++ [')'] = body' ++ [')'] := by
    calc body ++ [')'] = Text.trimEnd (body ++ [')'] ++ []) :=
          (Text.trimEnd_append (hends body) rfl).symm
      _ = Text.trimEnd (body' ++ [')'] ++ gap) := by rw [hsplit, List.append_nil, List.append_cons]
      _ = body' ++ [')'] := Text.trimEnd_append (hends body') hgap
  have hinner : (Nesting.start.step '(').splitBalanced (body ++ [')']) =
      some (body ++ [')'], []) := by
    rw [hbody]
    exact hbalanced
  refine ⟨_, rfl, ?_⟩
  rw [Nesting.splitBalanced, if_neg (show (Nesting.start.step '(').depth ≠ 0 by decide), hinner]
  rfl

/-- A text of parameters is white space or a list with white space around it. -/
theorem exists_list_of_readParameters {start : Nat} (h : readParameters text start = .ok es) :
    (text.drop start).all Text.isBlank = true ∨
      ∃ gap list gap', text.drop start = gap ++ (list ++ gap') ∧ gap.all Text.isBlank = true ∧
        gap'.all Text.isBlank = true ∧ ReadsList list es := by
  rw [readParameters] at h
  split at h
  · contradiction
  · rename_i s hrun
    rw [ok_mapError_iff] at h
    obtain ⟨hblank, -⟩ | ⟨gap, rest, hdrop, hgap, hrest⟩ := ReadState.exists_opening_of_run hrun
    · exact .inl hblank
    · obtain ⟨body, gap', es', rfl, hgap', rfl, hbody, -⟩ :=
        ReadState.exists_list_of_run hrest (Nat.succ_ne_zero 0) (ReadState.depth_of_finish h)
      obtain rfl := Except.ok.inj h
      exact .inr ⟨gap, _, gap', by simp [hdrop], hgap, hgap', body, rfl, hbody⟩

end PluginForms
