import PluginForms.Proofs.Provider.Composed
import PluginForms.Proofs.Selector.Evaluation

/-!
There are two ways to a plugin from a selector: to ask the provider for it, or to
evaluate the selector and ask the provider for nothing but plugins by name. For most
providers they are the same. A provider behind aliases checks a selector in another
order than its evaluation does, and may find another fault first, but it finds one
whenever the evaluation does.
-/

namespace PluginForms.Provider

variable {K : Kind} {ε α : Type}

/-! ### Behind aliases -/

section Aliased

variable {aliases : AliasSet K} {p : Provider K ε α} {s x : Selector K} {n m : Name K}
variable {values : List (Value α)} {steps : List ε} {a : α}

theorem aliasedPlugin_iff_of_expansion (h : aliases.expansion? n = some x) :
    aliasedPlugin aliases p n values = ⟨steps, .ok a⟩ ↔
      values = [] ∧ p.select x = ⟨steps, .ok a⟩ := by
  rw [aliasedPlugin, h]
  cases values with
  | nil => simp
  | cons v vs => simp [Traced.fail]

theorem aliasedPlugin_of_behind (h : aliases.expansion? n = none)
    (hbehind : aliases.behind? n = some m) : aliasedPlugin aliases p n = p.plugin m := by
  funext values
  rw [aliasedPlugin, h, hbehind]

theorem aliasedPlugin_of_hidden (h : aliases.expansion? n = none)
    (hbehind : aliases.behind? n = none) : aliasedPlugin aliases p n values = unknown n := by
  rw [aliasedPlugin, h, hbehind]

theorem unalias_iff_of_expansion {y : Selector K} (h : aliases.expansion? s.name = some x) :
    aliases.unalias s = .ok y ↔ s.parameters = .ok [] ∧ y = x := by
  rw [AliasSet.unalias, h]
  constructor
  · intro hy
    obtain ⟨es, hes, hrest⟩ := ok_bind_iff.mp hy
    split at hrest
    · rename_i hempty
      rw [List.isEmpty_iff.mp hempty] at hes
      exact ⟨hes, (ok_pure_iff.mp hrest).symm⟩
    · contradiction
  · rintro ⟨hes, rfl⟩
    exact ok_bind_iff.mpr ⟨[], hes, rfl⟩

theorem unalias_of_behind (h : aliases.expansion? s.name = none)
    (hbehind : aliases.behind? s.name = some m) : aliases.unalias s = .ok (s.rename m) := by
  rw [AliasSet.unalias, h, hbehind]

theorem unalias_of_hidden (h : aliases.expansion? s.name = none)
    (hbehind : aliases.behind? s.name = none) :
    aliases.unalias s = .error (.unknownName s.name) := by
  rw [AliasSet.unalias, h, hbehind]

theorem aliasedSelect_iff_of_expansion (h : aliases.expansion? s.name = some x) :
    aliasedSelect aliases p s = ⟨steps, .ok a⟩ ↔
      s.parameters = .ok [] ∧ p.select x = ⟨steps, .ok a⟩ := by
  rw [aliasedSelect, Traced.ok_ofExcept_bind_iff]
  simp only [unalias_iff_of_expansion h, h, Option.isSome_some, if_true]
  constructor
  · rintro ⟨y, ⟨hes, rfl⟩, hselect⟩
    exact ⟨hes, hselect⟩
  · rintro ⟨hes, hselect⟩
    exact ⟨x, ⟨hes, rfl⟩, hselect⟩

/-- An abbreviation is evaluated by selecting what it abbreviates, and only without
parameters. -/
theorem evaluate_call_iff_of_expansion {es : List (Expression K)} {w : Value α}
    (h : aliases.expansion? n = some x) :
    (Expression.call n es).evaluate (aliasedPlugin aliases p) = ⟨steps, .ok w⟩ ↔
      es = [] ∧ ∃ a, p.select x = ⟨steps, .ok a⟩ ∧ w = .plugin a := by
  rw [Expression.evaluate_call_iff]
  constructor
  · rintro ⟨before, values, after, a, hvalues, ha, hw, rfl⟩
    obtain ⟨rfl, hselect⟩ := (aliasedPlugin_iff_of_expansion h).mp ha
    obtain ⟨rfl, rfl⟩ := evaluateAll_eq_nil_iff.mp hvalues
    exact ⟨rfl, a, hselect, hw⟩
  · rintro ⟨rfl, a, hselect, rfl⟩
    have ha := (aliasedPlugin_iff_of_expansion h).mpr ⟨rfl, hselect⟩
    exact ⟨[], [], steps, a, rfl, ha, rfl, rfl⟩

theorem evaluate_call_ne_of_hidden {es : List (Expression K)} {w : Value α}
    (h : aliases.expansion? n = none) (hbehind : aliases.behind? n = none) :
    (Expression.call n es).evaluate (aliasedPlugin aliases p) ≠ ⟨steps, .ok w⟩ := by
  intro hcall
  obtain ⟨_, values, _, a, -, ha, -, -⟩ := Expression.evaluate_call_iff.mp hcall
  rw [aliasedPlugin_of_hidden h hbehind] at ha
  exact Traced.fail_ne_ok ha

theorem evaluate_iff_of_expansion (h : aliases.expansion? s.name = some x) :
    s.evaluate (aliasedPlugin aliases p) = ⟨steps, .ok a⟩ ↔
      s.parameters = .ok [] ∧ p.select x = ⟨steps, .ok a⟩ := by
  rw [Selector.evaluate_iff]
  constructor
  · rintro ⟨e, he, hcall⟩
    obtain ⟨es, hes, rfl⟩ := Selector.expression_iff.mp he
    obtain ⟨rfl, a', hselect, hw⟩ := (evaluate_call_iff_of_expansion h).mp hcall
    cases hw
    exact ⟨hes, hselect⟩
  · rintro ⟨hes, hselect⟩
    refine ⟨.call s.name [], Selector.expression_iff.mpr ⟨[], hes, rfl⟩, ?_⟩
    exact (evaluate_call_iff_of_expansion h).mpr ⟨rfl, a, hselect, rfl⟩

/-- Without an abbreviation the two ways are one. -/
theorem aliasedSelect_of_behind (h : aliases.expansion? s.name = none)
    (hbehind : aliases.behind? s.name = some m) :
    aliasedSelect aliases p s = s.evaluate (aliasedPlugin aliases p) := by
  rw [aliasedSelect, unalias_of_behind h hbehind, Traced.ofExcept_ok_bind, h, Selector.evaluate,
    aliasedPlugin_of_behind h hbehind]
  rfl

theorem aliasedSelect_iff : aliasedSelect aliases p s = ⟨steps, .ok a⟩ ↔
    s.evaluate (aliasedPlugin aliases p) = ⟨steps, .ok a⟩ := by
  cases h : aliases.expansion? s.name with
  | some x => rw [aliasedSelect_iff_of_expansion h, evaluate_iff_of_expansion h]
  | none =>
      cases hbehind : aliases.behind? s.name with
      | some m => rw [aliasedSelect_of_behind h hbehind]
      | none =>
          -- the selector fails before its parameters are read, and the call after they were
          refine iff_of_false (fun hselect => ?_) fun hevaluate => ?_
          · rw [aliasedSelect, unalias_of_hidden h hbehind, Traced.ofExcept_error_bind] at hselect
            exact Traced.fail_ne_ok hselect
          · obtain ⟨e, he, hcall⟩ := Selector.evaluate_iff.mp hevaluate
            obtain ⟨es, -, rfl⟩ := Selector.expression_iff.mp he
            exact evaluate_call_ne_of_hidden h hbehind hcall

end Aliased

/-! ### Everywhere -/

variable {urls : Url.Reader} {rows : List (TableRow K ε α)} {sets : List (AliasSet K)}

/-- Both ways lead to the same plugin by the same steps, if they lead to one at all. -/
def Agrees (p : Provider K ε α) : Prop :=
  ∀ (s : Selector K) (steps : List ε) (a : α),
    p.select s = ⟨steps, .ok a⟩ ↔ s.evaluate p.plugin = ⟨steps, .ok a⟩

theorem agrees_of_select {p : Provider K ε α} (h : p.select = Selector.evaluate p.plugin) :
    p.Agrees := by
  intro s steps a
  rw [h]

theorem agrees_of_ofTable {own : List (TableRow K ε α)} {p : Provider K ε α}
    (h : ofTable urls own = .ok p) : p.Agrees := by
  obtain ⟨-, -, -, -, hselect⟩ := ok_ofTable h
  exact agrees_of_select hselect

theorem agrees_of_withAliases {p q : Provider K ε α} {aliases : AliasSet K}
    (h : p.withAliases aliases = .ok q) : q.Agrees := by
  obtain ⟨-, hplugin, hselect⟩ := ok_withAliases h
  intro s steps a
  rw [hplugin, hselect]
  exact aliasedSelect_iff

theorem agrees_of_collect {ps : List (Provider K ε α)} {q : Provider K ε α}
    (h : collect ps = .ok q) : q.Agrees :=
  agrees_of_select (ok_collect h).2.2

theorem Composed.agrees {p : Provider K ε α} (h : Composed urls rows sets p) : p.Agrees := by
  refine Composed.induction (P := Agrees) ?table ?routed ?aliased ?collected h
  case table => exact fun own p _ h => agrees_of_ofTable h
  case routed => exact fun p q route _ hroutes => agrees_of_select hroutes.select
  case aliased => exact fun p q aliases _ _ h => agrees_of_withAliases h
  case collected => exact fun ps q _ h => agrees_of_collect h

/-- Asking for a selector and evaluating it succeed together, with the same plugin and by
the same steps. -/
theorem selecting_is_evaluating {p : Provider K ε α} (h : Composed urls rows sets p)
    (s : Selector K) (a : α) :
    ((p.select s).result = .ok a ↔ (s.evaluate p.plugin).result = .ok a) ∧
      ((p.select s).result = .ok a → (p.select s).steps = (s.evaluate p.plugin).steps) := by
  have hforward : (p.select s).result = .ok a → p.select s = s.evaluate p.plugin := by
    intro hresult
    have hselect : p.select s = ⟨(p.select s).steps, .ok a⟩ := by rw [← hresult]
    rw [(h.agrees s _ a).mp hselect]
    exact hselect
  refine ⟨⟨fun hresult => ?_, fun hresult => ?_⟩, fun hresult => by rw [← hforward hresult]⟩
  · rw [← hforward hresult]
    exact hresult
  · have hevaluate : s.evaluate p.plugin = ⟨(s.evaluate p.plugin).steps, .ok a⟩ := by
      rw [← hresult]
    rw [(h.agrees s _ a).mpr hevaluate]

theorem selecting_is_evaluating_behind_aliases :
    ∃ q : Provider Sample.kind Nat Nat, (q.select Sample.selector).result = .ok 1 ∧
      (Sample.selector.evaluate q.plugin).result = .ok 1 ∧
      (Sample.selector.evaluate q.plugin).steps = [0, 2, 1] := by
  obtain ⟨p, q, -, -, hcomposed, -, hselect⟩ := Sample.exists_composed
  have hresult : (q.select Sample.selector).result = .ok 1 := by rw [hselect]
  obtain ⟨hagree, hsteps⟩ := selecting_is_evaluating hcomposed Sample.selector 1
  refine ⟨q, hresult, hagree.mp hresult, ?_⟩
  rw [← hsteps hresult, hselect]

end PluginForms.Provider
