import PluginForms.Proofs.Plugin.Success
import PluginForms.Selector.Evaluation

/-!
What an evaluation that succeeded has done: it resolved every name of the tree, with
the values of that call's parameters. A selector is evaluated as the call that it is
written as.
-/

namespace PluginForms

variable {K : Kind} {ε α : Type}

mutual

/-- The names that are called somewhere in the tree. -/
def Expression.names : Expression K → List (Name K)
  | .call n parameters => n :: namesOfAll parameters
  | .number _ => []
  | .string _ => []

def namesOfAll : List (Expression K) → List (Name K)
  | [] => []
  | e :: es => e.names ++ namesOfAll es

end

variable {resolve : Resolver K ε α} {steps : List ε}

/-! ### One construct at a time -/

theorem Expression.evaluate_call_iff {n : Name K} {es : List (Expression K)} {w : Value α} :
    (Expression.call n es).evaluate resolve = ⟨steps, .ok w⟩ ↔
      ∃ before values after a, evaluateAll resolve es = ⟨before, .ok values⟩ ∧
        resolve n values = ⟨after, .ok a⟩ ∧ w = .plugin a ∧ steps = before ++ after := by
  rw [Expression.evaluate, Traced.ok_bind_iff]
  constructor
  · rintro ⟨before, values, rest, hvalues, hrest, rfl⟩
    obtain ⟨after, a, last, ha, hlast, rfl⟩ := Traced.ok_bind_iff.mp hrest
    obtain ⟨rfl, rfl⟩ := Traced.ok_pure_iff.mp hlast
    rw [List.append_nil]
    exact ⟨before, values, after, a, hvalues, ha, rfl, rfl⟩
  · rintro ⟨before, values, after, a, hvalues, ha, rfl, rfl⟩
    refine ⟨before, values, after, hvalues, Traced.ok_bind_iff.mpr ?_, rfl⟩
    exact ⟨after, a, [], ha, rfl, (List.append_nil after).symm⟩

theorem evaluateAll_nil_iff {values : List (Value α)} :
    evaluateAll resolve ([] : List (Expression K)) = ⟨steps, .ok values⟩ ↔
      steps = [] ∧ values = [] := by
  rw [evaluateAll, Traced.ok_pure_iff, eq_comm (a := [])]

theorem evaluateAll_cons_iff {e : Expression K} {es : List (Expression K)}
    {values : List (Value α)} :
    evaluateAll resolve (e :: es) = ⟨steps, .ok values⟩ ↔
      ∃ before value after rest, e.evaluate resolve = ⟨before, .ok value⟩ ∧
        evaluateAll resolve es = ⟨after, .ok rest⟩ ∧ values = value :: rest ∧
        steps = before ++ after := by
  rw [evaluateAll, Traced.ok_bind_iff]
  constructor
  · rintro ⟨before, value, more, hvalue, hmore, rfl⟩
    obtain ⟨after, rest, last, hrest, hlast, rfl⟩ := Traced.ok_bind_iff.mp hmore
    obtain ⟨rfl, rfl⟩ := Traced.ok_pure_iff.mp hlast
    rw [List.append_nil]
    exact ⟨before, value, after, rest, hvalue, hrest, rfl, rfl⟩
  · rintro ⟨before, value, after, rest, hvalue, hrest, rfl, rfl⟩
    refine ⟨before, value, after, hvalue, Traced.ok_bind_iff.mpr ?_, rfl⟩
    exact ⟨after, rest, [], hrest, rfl, (List.append_nil after).symm⟩

/-- Only no parameters have no values. -/
theorem evaluateAll_eq_nil_iff {es : List (Expression K)} :
    evaluateAll resolve es = ⟨steps, .ok []⟩ ↔ es = [] ∧ steps = [] := by
  cases es with
  | nil => simp [evaluateAll_nil_iff]
  | cons e es =>
      rw [evaluateAll_cons_iff]
      constructor
      · rintro ⟨_, _, _, _, _, _, hnil, _⟩
        contradiction
      · rintro ⟨hnil, _⟩
        contradiction

theorem Selector.expression_iff {s : Selector K} {e : Expression K} :
    s.expression = .ok e ↔ ∃ es, s.parameters = .ok es ∧ e = .call s.name es := by
  rw [Selector.expression, ok_bind_iff]
  exact exists_congr fun es => and_congr_right fun _ => ok_pure_iff.trans eq_comm

theorem Selector.evaluate_iff {s : Selector K} {a : α} :
    s.evaluate resolve = ⟨steps, .ok a⟩ ↔
      ∃ e, s.expression = .ok e ∧ e.evaluate resolve = ⟨steps, .ok (.plugin a)⟩ := by
  rw [Selector.evaluate, Traced.ok_ofExcept_bind_iff]
  constructor
  · rintro ⟨es, hes, h⟩
    obtain ⟨before, values, after, hvalues, ha, rfl⟩ := Traced.ok_bind_iff.mp h
    refine ⟨.call s.name es, Selector.expression_iff.mpr ⟨es, hes, rfl⟩, ?_⟩
    exact Expression.evaluate_call_iff.mpr ⟨before, values, after, a, hvalues, ha, rfl, rfl⟩
  · rintro ⟨e, he, h⟩
    obtain ⟨es, hes, rfl⟩ := Selector.expression_iff.mp he
    obtain ⟨before, values, after, a', hvalues, ha, hw, rfl⟩ :=
      Expression.evaluate_call_iff.mp h
    cases hw
    exact ⟨es, hes, Traced.ok_bind_iff.mpr ⟨before, values, after, hvalues, ha, rfl⟩⟩

/-- A selector never has a value that is not a plugin. -/
theorem Selector.evaluate_expression_iff {s : Selector K} {w : Value α} :
    (∃ e, s.expression = .ok e ∧ e.evaluate resolve = ⟨steps, .ok w⟩) ↔
      ∃ a, s.evaluate resolve = ⟨steps, .ok a⟩ ∧ w = .plugin a := by
  constructor
  · rintro ⟨e, he, h⟩
    obtain ⟨es, -, rfl⟩ := Selector.expression_iff.mp he
    obtain ⟨_, _, _, a, -, -, rfl, -⟩ := Expression.evaluate_call_iff.mp h
    exact ⟨a, Selector.evaluate_iff.mpr ⟨_, he, h⟩, rfl⟩
  · rintro ⟨a, ha, rfl⟩
    exact Selector.evaluate_iff.mp ha

/-! ### Every name was resolved -/

/-- The resolver makes a plugin of the name for some values. -/
def Resolver.Makes (resolve : Resolver K ε α) (n : Name K) : Prop :=
  ∃ values steps a, resolve n values = ⟨steps, .ok a⟩

mutual

theorem Expression.makes_of_mem_names {e : Expression K} {steps : List ε} {w : Value α}
    (h : e.evaluate resolve = ⟨steps, .ok w⟩) {n : Name K} (hn : n ∈ e.names) :
    resolve.Makes n := by
  match e with
  | .number x => exact absurd hn List.not_mem_nil
  | .string t => exact absurd hn List.not_mem_nil
  | .call m es =>
      obtain ⟨before, values, after, a, hvalues, ha, -, -⟩ := Expression.evaluate_call_iff.mp h
      rcases List.mem_cons.mp hn with rfl | hn'
      · exact ⟨values, after, a, ha⟩
      · exact makes_of_mem_namesOfAll hvalues hn'

theorem makes_of_mem_namesOfAll {es : List (Expression K)} {steps : List ε}
    {values : List (Value α)} (h : evaluateAll resolve es = ⟨steps, .ok values⟩) {n : Name K}
    (hn : n ∈ namesOfAll es) : resolve.Makes n := by
  match es with
  | [] => exact absurd hn List.not_mem_nil
  | e :: es =>
      obtain ⟨before, value, after, rest, hvalue, hrest, -, -⟩ := evaluateAll_cons_iff.mp h
      rcases List.mem_append.mp hn with hn' | hn'
      · exact Expression.makes_of_mem_names hvalue hn'
      · exact makes_of_mem_namesOfAll hrest hn'

end

/-- A name of which no plugin can be made fails the tree that mentions it. -/
theorem Expression.exists_error_of_mem_names {e : Expression K} {n : Name K} (hn : n ∈ e.names)
    (h : ¬ resolve.Makes n) : ∃ r, (e.evaluate resolve).result = .error r := by
  cases hresult : (e.evaluate resolve).result with
  | error r => exact ⟨r, rfl⟩
  | ok w =>
      have hevaluate : e.evaluate resolve = ⟨(e.evaluate resolve).steps, .ok w⟩ := by
        rw [← hresult]
      exact absurd (makes_of_mem_names hevaluate hn) h

/-! ### Under other names -/

mutual

/-- The tree with each of its names as `f` has it. -/
def Expression.mapNames (f : Name K → Name K) : Expression K → Expression K
  | .call n parameters => .call (f n) (mapNamesOfAll f parameters)
  | .number x => .number x
  | .string t => .string t

def mapNamesOfAll (f : Name K → Name K) : List (Expression K) → List (Expression K)
  | [] => []
  | e :: es => e.mapNames f :: mapNamesOfAll f es

end

variable {resolve' : Resolver K ε α} {f : Name K → Name K}

mutual

/-- Resolvers that agree along a renaming of the names in the tree evaluate it alike. -/
theorem Expression.evaluate_mapNames {e : Expression K}
    (h : ∀ n ∈ e.names, resolve n = resolve' (f n)) :
    e.evaluate resolve = (e.mapNames f).evaluate resolve' := by
  match e with
  | .number x => rfl
  | .string t => rfl
  | .call n es =>
      have hes : evaluateAll resolve es = evaluateAll resolve' (mapNamesOfAll f es) :=
        evaluateAll_mapNames fun m hm => h m (List.mem_cons_of_mem n hm)
      rw [Expression.mapNames, Expression.evaluate, Expression.evaluate, hes,
        h n List.mem_cons_self]

theorem evaluateAll_mapNames {es : List (Expression K)}
    (h : ∀ n ∈ namesOfAll es, resolve n = resolve' (f n)) :
    evaluateAll resolve es = evaluateAll resolve' (mapNamesOfAll f es) := by
  match es with
  | [] => rfl
  | e :: es =>
      have he : e.evaluate resolve = (e.mapNames f).evaluate resolve' :=
        e.evaluate_mapNames fun m hm => h m (List.mem_append_left _ hm)
      have hes : evaluateAll resolve es = evaluateAll resolve' (mapNamesOfAll f es) :=
        evaluateAll_mapNames fun m hm => h m (List.mem_append_right _ hm)
      rw [mapNamesOfAll, evaluateAll, evaluateAll, he, hes]

end

end PluginForms
