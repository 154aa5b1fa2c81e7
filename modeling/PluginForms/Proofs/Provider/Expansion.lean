import PluginForms.Proofs.Provider.Agreement

/-!
A provider behind aliases, without the aliases: they rewrite the selector, and the
provider evaluates what comes out. Abbreviations stand for what they abbreviate, which
is not rewritten again, and every other name for the one behind it.

The rewriting speaks of selectors only. That it is what a provider behind aliases does
is a substitution lemma: evaluating with the names in front of the aliases is evaluating
the rewritten tree with the names behind them.
-/

namespace PluginForms

variable {K : Kind} {ε α : Type}

namespace AliasSet

mutual

/-- The tree in terms of the names behind the aliases. -/
def expand (s : AliasSet K) : Expression K → Except PluginError (Expression K)
  | .call n parameters =>
    match s.expansion? n with
    | some x => if parameters.isEmpty then x.expression else throw (takesNone n)
    | none =>
      match s.behind? n with
      | some m => do
        let expanded ← expandAll s parameters
        return .call m expanded
      | none => throw (.unknownName n)
  | .number x => pure (.number x)
  | .string t => pure (.string t)

def expandAll (s : AliasSet K) : List (Expression K) → Except PluginError (List (Expression K))
  | [] => pure []
  | e :: es => do
    let expanded ← s.expand e
    let rest ← expandAll s es
    return expanded :: rest

end

variable {s : AliasSet K} {n m : Name K} {x : Selector K} {e' : Expression K}
variable {es : List (Expression K)}

theorem expand_call_iff_of_expansion (h : s.expansion? n = some x) :
    s.expand (.call n es) = .ok e' ↔ es = [] ∧ x.expression = .ok e' := by
  rw [expand, h]
  cases es with
  | nil => simp
  | cons e es => simp [throw, throwThe, MonadExceptOf.throw]

theorem expand_call_iff_of_behind (h : s.expansion? n = none) (hbehind : s.behind? n = some m) :
    s.expand (.call n es) = .ok e' ↔ ∃ es', s.expandAll es = .ok es' ∧ e' = .call m es' := by
  rw [expand, h, hbehind]
  refine ok_bind_iff.trans (exists_congr fun es' => and_congr_right fun _ => ?_)
  exact ok_pure_iff.trans eq_comm

theorem expand_call_of_hidden (h : s.expansion? n = none) (hbehind : s.behind? n = none) :
    s.expand (.call n es) = .error (.unknownName n) := by
  rw [expand, h, hbehind]
  rfl

theorem expandAll_cons_iff {e : Expression K} {es' : List (Expression K)} :
    s.expandAll (e :: es) = .ok es' ↔
      ∃ e' rest, s.expand e = .ok e' ∧ s.expandAll es = .ok rest ∧ es' = e' :: rest := by
  rw [expandAll, ok_bind_iff]
  constructor
  · rintro ⟨e', he, hmore⟩
    obtain ⟨rest, hrest, hes⟩ := ok_bind_iff.mp hmore
    exact ⟨e', rest, he, hrest, (ok_pure_iff.mp hes).symm⟩
  · rintro ⟨e', rest, he, hrest, rfl⟩
    exact ⟨e', he, ok_bind_iff.mpr ⟨rest, hrest, rfl⟩⟩

end AliasSet

namespace Provider

/-! ### Evaluation before and after -/

section Aliased

variable {aliases : AliasSet K} {p : Provider K ε α}

mutual

/-- Evaluating in front of the aliases is evaluating the expanded tree behind them. -/
theorem evaluate_aliased_iff (hp : p.Agrees) (e : Expression K) (steps : List ε) (w : Value α) :
    e.evaluate (aliasedPlugin aliases p) = ⟨steps, .ok w⟩ ↔
      ∃ e', aliases.expand e = .ok e' ∧ e'.evaluate p.plugin = ⟨steps, .ok w⟩ := by
  match e with
  | .number v =>
      simp only [AliasSet.expand, ok_pure_iff, exists_eq_left']
      exact Iff.rfl
  | .string t =>
      simp only [AliasSet.expand, ok_pure_iff, exists_eq_left']
      exact Iff.rfl
  | .call n es =>
      cases h : aliases.expansion? n with
      | some x =>
          -- what is abbreviated is left to the provider, on both sides
          rw [evaluate_call_iff_of_expansion h]
          simp only [AliasSet.expand_call_iff_of_expansion h, hp x, and_assoc]
          rw [exists_and_left, Selector.evaluate_expression_iff]
      | none =>
          cases hbehind : aliases.behind? n with
          | some m =>
              simp only [AliasSet.expand_call_iff_of_behind h hbehind]
              rw [Expression.evaluate_call_iff, aliasedPlugin_of_behind h hbehind]
              constructor
              · rintro ⟨before, values, after, a, hvalues, ha, rfl, rfl⟩
                obtain ⟨es', hes, hvalues'⟩ := (evaluateAll_aliased_iff hp es _ _).mp hvalues
                refine ⟨.call m es', ⟨es', hes, rfl⟩, Expression.evaluate_call_iff.mpr ?_⟩
                exact ⟨before, values, after, a, hvalues', ha, rfl, rfl⟩
              · rintro ⟨_, ⟨es', hes, rfl⟩, hcall⟩
                obtain ⟨before, values, after, a, hvalues, ha, rfl, rfl⟩ :=
                  Expression.evaluate_call_iff.mp hcall
                have hvalues' := (evaluateAll_aliased_iff hp es _ _).mpr ⟨es', hes, hvalues⟩
                exact ⟨before, values, after, a, hvalues', ha, rfl, rfl⟩
          | none =>
              refine iff_of_false (evaluate_call_ne_of_hidden h hbehind) ?_
              rw [AliasSet.expand_call_of_hidden h hbehind]
              rintro ⟨e', he, -⟩
              contradiction

theorem evaluateAll_aliased_iff (hp : p.Agrees) (es : List (Expression K)) (steps : List ε)
    (values : List (Value α)) :
    evaluateAll (aliasedPlugin aliases p) es = ⟨steps, .ok values⟩ ↔
      ∃ es', aliases.expandAll es = .ok es' ∧
        evaluateAll p.plugin es' = ⟨steps, .ok values⟩ := by
  match es with
  | [] =>
      simp only [AliasSet.expandAll, ok_pure_iff, exists_eq_left']
      exact Iff.rfl
  | e :: es =>
      rw [evaluateAll_cons_iff]
      simp only [AliasSet.expandAll_cons_iff]
      constructor
      · rintro ⟨before, value, after, rest, hvalue, hrest, rfl, rfl⟩
        obtain ⟨e', he, hvalue'⟩ := (evaluate_aliased_iff hp e _ _).mp hvalue
        obtain ⟨es', hes, hrest'⟩ := (evaluateAll_aliased_iff hp es _ _).mp hrest
        refine ⟨e' :: es', ⟨e', es', he, hes, rfl⟩, evaluateAll_cons_iff.mpr ?_⟩
        exact ⟨before, value, after, rest, hvalue', hrest', rfl, rfl⟩
      · rintro ⟨_, ⟨e', es', he, hes, rfl⟩, hvalues⟩
        obtain ⟨before, value, after, rest, hvalue, hrest, rfl, rfl⟩ :=
          evaluateAll_cons_iff.mp hvalues
        have hvalue' := (evaluate_aliased_iff hp e _ _).mpr ⟨e', he, hvalue⟩
        have hrest' := (evaluateAll_aliased_iff hp es _ _).mpr ⟨es', hes, hrest⟩
        exact ⟨before, value, after, rest, hvalue', hrest', rfl, rfl⟩

end

end Aliased

/-- A provider behind aliases makes what the provider makes of the expanded selector, by
the same steps, and nothing else. -/
theorem aliases_expand_selectors {urls : Url.Reader} {rows : List (TableRow K ε α)}
    {sets : List (AliasSet K)} {p q : Provider K ε α} {aliases : AliasSet K}
    (hp : Composed urls rows sets p) (h : p.withAliases aliases = .ok q) (s : Selector K)
    (steps : List ε) (a : α) :
    q.select s = ⟨steps, .ok a⟩ ↔
      ∃ e e', s.expression = .ok e ∧ aliases.expand e = .ok e' ∧
        e'.evaluate p.plugin = ⟨steps, .ok (.plugin a)⟩ := by
  obtain ⟨-, -, hselect⟩ := ok_withAliases h
  rw [hselect, aliasedSelect_iff, Selector.evaluate_iff]
  refine exists_congr fun e => ?_
  rw [evaluate_aliased_iff hp.agrees e steps (.plugin a), exists_and_left]

theorem aliases_expand_counter : ∃ p q : Provider Sample.kind Nat Nat,
    p.withAliases Sample.aliases = .ok q ∧ q.select Sample.selector = ⟨[0, 2, 1], .ok 1⟩ ∧
      ∃ e e', Sample.selector.expression = .ok e ∧ Sample.aliases.expand e = .ok e' ∧
        e'.evaluate p.plugin = ⟨[0, 2, 1], .ok (.plugin 1)⟩ := by
  obtain ⟨p, q, hcomposed, hq, -, -, hselect⟩ := Sample.exists_composed
  refine ⟨p, q, hq, hselect, ?_⟩
  exact (aliases_expand_selectors hcomposed hq Sample.selector [0, 2, 1] 1).mp hselect

end Provider

end PluginForms
