import PluginForms.Selector.Evaluation

/-!
The steps of an evaluation are those of the calls that it makes. So nothing but steps of
calls is in them, and an evaluation whose calls have other names for their steps, or hide
some of them, is the same evaluation with its steps renamed and hidden.
-/

namespace PluginForms

variable {K : Kind} {ε ε' α β : Type}

namespace Traced

/-- Every step is one that `P` allows. -/
def Only (P : ε → Prop) (x : Traced ε α) : Prop := ∀ e ∈ x.steps, P e

variable {P : ε → Prop}

theorem only_pure (a : α) : (pure a : Traced ε α).Only P := fun _ he => absurd he List.not_mem_nil

theorem only_fail (e : PluginError) : (fail e : Traced ε α).Only P :=
  fun _ he => absurd he List.not_mem_nil

theorem only_ofExcept (r : Except PluginError α) : (ofExcept r : Traced ε α).Only P :=
  fun _ he => absurd he List.not_mem_nil

theorem only_bind {x : Traced ε α} {f : α → Traced ε β} (hx : x.Only P)
    (hf : ∀ a, (f a).Only P) : (x >>= f).Only P := by
  obtain ⟨steps, result⟩ := x
  cases result with
  | error e => exact hx
  | ok a =>
      intro e he
      rcases List.mem_append.mp he with he | he
      · exact hx e he
      · exact hf a e he

/-- The answer with its steps as `f` has them, where `f` may hide some. -/
def mapSteps (f : ε → Option ε') (x : Traced ε α) : Traced ε' α :=
  ⟨x.steps.filterMap f, x.result⟩

variable {f : ε → Option ε'}

@[simp] theorem mapSteps_pure (a : α) : (pure a : Traced ε α).mapSteps f = pure a := rfl

@[simp] theorem mapSteps_ofExcept (r : Except PluginError α) :
    (ofExcept r : Traced ε α).mapSteps f = ofExcept r := rfl

theorem mapSteps_bind (x : Traced ε α) (g : α → Traced ε β) :
    (x >>= g).mapSteps f = x.mapSteps f >>= fun a => (g a).mapSteps f := by
  obtain ⟨steps, result⟩ := x
  cases result with
  | error e => rfl
  | ok a =>
      have hsteps : (steps ++ (g a).steps).filterMap f =
          steps.filterMap f ++ (g a).steps.filterMap f := List.filterMap_append
      exact congrArg (Traced.mk · (g a).result) hsteps

/-- Answers with one result are one answer once their steps are left out. -/
theorem mapSteps_none_eq {x : Traced ε α} {y : Traced ε' α} (h : x.result = y.result) :
    x.mapSteps (fun _ => (none : Option Empty)) = y.mapSteps fun _ => none := by
  have hnone {δ : Type} (steps : List δ) : steps.filterMap (fun _ => (none : Option Empty)) = [] :=
    List.filterMap_eq_nil_iff.mpr fun _ _ => rfl
  rw [mapSteps, mapSteps, hnone, hnone, h]

end Traced

def Resolver.mapSteps (f : ε → Option ε') (resolve : Resolver K ε α) : Resolver K ε' α :=
  fun n values => (resolve n values).mapSteps f

/-! ### Steps of calls only -/

section Only

variable {P : ε → Prop} {resolve : Resolver K ε α}

mutual

theorem Expression.only_evaluate (h : ∀ n values, (resolve n values).Only P)
    (e : Expression K) : (e.evaluate resolve).Only P := by
  match e with
  | .number x => exact Traced.only_pure _
  | .string t => exact Traced.only_pure _
  | .call n es =>
      rw [Expression.evaluate]
      refine Traced.only_bind (only_evaluateAll h es) fun values => ?_
      exact Traced.only_bind (h n values) fun _ => Traced.only_pure _

theorem only_evaluateAll (h : ∀ n values, (resolve n values).Only P)
    (es : List (Expression K)) : (evaluateAll resolve es).Only P := by
  match es with
  | [] => exact Traced.only_pure _
  | e :: es =>
      rw [evaluateAll]
      refine Traced.only_bind (e.only_evaluate h) fun value => ?_
      exact Traced.only_bind (only_evaluateAll h es) fun _ => Traced.only_pure _

end

theorem Selector.only_evaluate (h : ∀ n values, (resolve n values).Only P) (s : Selector K) :
    (s.evaluate resolve).Only P := by
  rw [Selector.evaluate]
  refine Traced.only_bind (Traced.only_ofExcept _) fun es => ?_
  exact Traced.only_bind (only_evaluateAll h es) fun values => h s.name values

end Only

/-! ### Steps under other names -/

section Renamed

variable {f : ε → Option ε'} {resolve : Resolver K ε α}

mutual

theorem Expression.evaluate_mapSteps (e : Expression K) :
    e.evaluate (resolve.mapSteps f) = (e.evaluate resolve).mapSteps f := by
  match e with
  | .number x => rfl
  | .string t => rfl
  | .call n es =>
      rw [Expression.evaluate, Expression.evaluate, evaluateAll_mapSteps es]
      simp only [Traced.mapSteps_bind, Traced.mapSteps_pure]
      rfl

theorem evaluateAll_mapSteps (es : List (Expression K)) :
    evaluateAll (resolve.mapSteps f) es = (evaluateAll resolve es).mapSteps f := by
  match es with
  | [] => rfl
  | e :: es =>
      rw [evaluateAll, evaluateAll, e.evaluate_mapSteps, evaluateAll_mapSteps es]
      simp only [Traced.mapSteps_bind, Traced.mapSteps_pure]

end

/-- The steps of the calls have no part in what an evaluation results in. -/
theorem Expression.result_evaluate_congr {resolve' : Resolver K ε' α}
    (h : ∀ n values, (resolve n values).result = (resolve' n values).result) (e : Expression K) :
    (e.evaluate resolve).result = (e.evaluate resolve').result := by
  have hsilent : resolve.mapSteps (fun _ => (none : Option Empty)) =
      resolve'.mapSteps fun _ => none :=
    funext fun n => funext fun values => Traced.mapSteps_none_eq (h n values)
  have hevaluate := congrArg e.evaluate hsilent
  rw [evaluate_mapSteps, evaluate_mapSteps] at hevaluate
  exact congrArg Traced.result hevaluate

theorem Selector.evaluate_mapSteps (s : Selector K) :
    s.evaluate (resolve.mapSteps f) = (s.evaluate resolve).mapSteps f := by
  rw [Selector.evaluate, Selector.evaluate]
  simp only [Traced.mapSteps_bind, Traced.mapSteps_ofExcept, evaluateAll_mapSteps]
  rfl

end Renamed

end PluginForms
