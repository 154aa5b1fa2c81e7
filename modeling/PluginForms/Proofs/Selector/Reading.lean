import PluginForms.Proofs.Plugin.Success
import PluginForms.Proofs.Selector.Demand
import PluginForms.Proofs.Selector.Moves
import PluginForms.Proofs.Selector.Writing

/-!
The reader reads the grammar. A step takes one character off the text that its state
demands, and at the end of the text a state demands nothing more exactly if the
reader may stop in it; so by induction on the text a run accepts what its first
state demands, and the first state of all demands a derivation.
-/

namespace PluginForms.ReadState

open Grammar

variable {K : Kind} {waiting : List (Frame K)} {items es : List (Expression K)} {c : Char}
  {t : Text}

/-! ### The end of the text

An open list demands its closing parenthesis at least. -/

theorem not_ends_nil : ¬ Ends waiting items [] es := by
  rintro ⟨rest, u, ht, -, -⟩
  obtain ⟨gap, c, v, hrest, -⟩ := rest.follows u
  rw [← ht] at hrest
  exact absurd hrest.symm (by simp)

theorem not_next_nil : ¬ Next waiting items [] es := by
  rintro ⟨gap, u, ht, p, v, rfl, -, -⟩
  obtain ⟨c, w, hp, -⟩ := p.exists_cons
  rw [hp] at ht
  exact absurd ht.symm (by simp)

theorem not_opened_nil : ¬ Opened waiting items [] es := by
  rintro ⟨l, u, ht, -, -⟩
  cases l with
  | empty gap => exact absurd ht.symm (by simp [ParameterList.inner])
  | items gap first rest =>
      obtain ⟨c, w, hfirst, -⟩ := first.exists_cons
      exact absurd ht.symm (by simp [ParameterList.inner, hfirst])

theorem not_named_nil {n : Name K} : ¬ Named waiting items n [] es := by
  rintro (hends | ⟨gap, u, ht, -⟩)
  · exact not_ends_nil hends
  · exact absurd ht.symm (by simp)

theorem not_pointed_nil {literal : Text} : ¬ Pointed waiting items literal [] es := by
  rintro ⟨fraction, u, ht, hends⟩
  obtain ⟨-, rfl⟩ := List.append_eq_nil_iff.mp ht.symm
  exact not_ends_nil hends

theorem not_inString_nil {chars : Text} : ¬ InString waiting items chars [] es := by
  rintro ⟨ps, u, ht, -⟩
  exact absurd ht.symm (by simp)

theorem not_phaseDemands_nil (phase : Phase K) : ¬ PhaseDemands waiting items [] es phase := by
  cases phase with
  | opened => exact not_opened_nil
  | separated => exact not_next_nil
  | name chars =>
      rintro ⟨more, u, -, ht, n, -, hnamed⟩
      obtain ⟨-, rfl⟩ := List.append_eq_nil_iff.mp ht.symm
      exact not_named_nil hnamed
  | named n => exact not_named_nil
  | sign =>
      rintro ⟨d, u, ht, -⟩
      exact d.nonempty (List.append_eq_nil_iff.mp ht.symm).1
  | whole literal =>
      rintro ⟨more, u, -, ht, hpointed⟩
      obtain ⟨-, rfl⟩ := List.append_eq_nil_iff.mp ht.symm
      exact not_pointed_nil hpointed
  | point literal =>
      rintro ⟨d, u, ht, -⟩
      exact d.nonempty (List.append_eq_nil_iff.mp ht.symm).1
  | fraction literal =>
      rintro ⟨more, u, -, ht, hends⟩
      obtain ⟨-, rfl⟩ := List.append_eq_nil_iff.mp ht.symm
      exact not_ends_nil hends
  | string chars => exact not_inString_nil
  | escape chars =>
      rintro ⟨e, u, ht, -⟩
      exact absurd ht.symm (List.cons_ne_nil _ _)
  | complete => exact not_ends_nil

theorem finish_inside_ne (phase : Phase K) : (inside waiting items phase).finish ≠ .ok es := by
  cases phase with
  | name chars =>
      rw [finish]
      split <;> simp
  | _ => simp [finish]

/-- A state demands nothing more exactly if the text may end in it. -/
theorem demands_nil (s : ReadState K) : Demands s [] es ↔ s.finish = .ok es := by
  cases s with
  | before =>
      rw [Demands, finish]
      constructor
      · rintro ⟨d, ht, rfl, -⟩
        cases d with
        | none gap => rfl
        | list gap l after => exact absurd ht (by simp [Parameters.text])
      · intro h
        obtain rfl := Except.ok.inj h
        exact ⟨.none .nil, rfl, rfl, Nat.zero_le _⟩
  | after items =>
      rw [Demands, finish, Except.ok.injEq]
      simp
  | inside waiting items phase =>
      exact iff_of_false (not_phaseDemands_nil phase) (finish_inside_ne phase)

/-! ### Whole runs -/

/-- A run accepts exactly what its first state demands. -/
theorem demands_iff_run (s : ReadState K) (hroom : s.depth ≤ nestingLimit) :
    Demands s t es ↔ ∃ s', s.run t = .ok s' ∧ s'.finish = .ok es := by
  -- the state changes with every character, and the room for its lists is kept
  induction t generalizing s with
  | nil =>
      rw [demands_nil]
      simp
  | cons c t ih =>
      rw [demands_cons s hroom, Allows, run]
      constructor
      · rintro ⟨s', hstep, hdemands⟩
        rw [hstep]
        exact (ih s' (depth_step hstep hroom)).mp hdemands
      · intro hrun
        cases hstep : s.step c with
        | ok s' =>
            rw [hstep] at hrun
            exact ⟨s', rfl, (ih s' (depth_step hstep hroom)).mpr hrun⟩
        | error r =>
            rw [hstep] at hrun
            obtain ⟨s', hs', -⟩ := hrun
            contradiction

end PluginForms.ReadState

namespace PluginForms

variable {K : Kind}

open Grammar

theorem readParameters_eq_ok_iff {text : Text} {start : Nat} {es : List (Expression K)} :
    readParameters text start = .ok es ↔ Derives nestingLimit (text.drop start) es := by
  have hroom : (ReadState.before : ReadState K).depth ≤ nestingLimit := Nat.zero_le _
  have hdemands : Derives nestingLimit (text.drop start) es ↔
      ReadState.Demands .before (text.drop start) es := Iff.rfl
  rw [hdemands, ReadState.demands_iff_run .before hroom, readParameters]
  cases (ReadState.before : ReadState K).run (text.drop start) with
  | ok s =>
      change s.finish.mapError (·.error text []) = .ok es ↔ _
      rw [ok_mapError_iff]
      simp
  | error r => simp

/-- Reading a parameter list is finding its derivation. No text has two of them, none
that is found nests more than 64 lists, and every tree of literals that needs no more
than 64 lists is read from some text. -/
theorem reading_follows_grammar (text : Text) (start : Nat) :
    (∀ es : List (Expression K),
      readParameters text start = .ok es ↔ Derives 64 (text.drop start) es) ∧
    (∀ d d' : Parameters K, d.text = d'.text → d = d') ∧
    (∀ es : List (Expression K), readParameters text start = .ok es → listDepth es ≤ 64) ∧
    (∀ es : List (Expression K), AllLiteral es → listDepth es ≤ 64 →
      ∃ t, readParameters t 0 = .ok es) := by
  refine ⟨fun es => readParameters_eq_ok_iff, fun d d' => Parameters.eq_of_text, ?_, ?_⟩
  · intro es h
    exact (readParameters_eq_ok_iff.mp h).listDepth_le
  · intro es hliteral hdepth
    obtain ⟨t, ht⟩ := exists_derives hliteral hdepth
    exact ⟨t, readParameters_eq_ok_iff.mpr ht⟩

end PluginForms
