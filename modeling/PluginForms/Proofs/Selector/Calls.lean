import PluginForms.Proofs.Selector.Evaluation
import PluginForms.Proofs.Selector.Steps

/-!
The calls that an evaluation makes, and their order: each call after those in its own
parameters, and these from left to right. An evaluation goes down this list until a call
fails, and the error of that call is what it ends with.

A resolver does not say what it was asked, so the calls are those of a recorded resolver,
which takes each call as a step and has the same results. The order speaks of places in the
tree. That a call belongs to its place means that it has the name that is written there, and
for values what the parameters there stand for, a nested call standing for the plugin that
it returned.
-/

namespace PluginForms

variable {K : Kind} {ε α β : Type}

/-- A plugin that is asked for by name, and the values it is given. -/
structure Call (K : Kind) (α : Type) where
  name : Name K
  values : List (Value α)

/-- The resolver with its calls for steps. -/
def Resolver.recorded (resolve : Resolver K ε α) : Resolver K (Call K α) α :=
  fun n values => ⟨[⟨n, values⟩], (resolve n values).result⟩

mutual

/-- The calls as they are written in the tree, each after those in its own parameters. -/
def Expression.postorder : Expression K → List (Name K × List (Expression K))
  | .call n parameters => postorderOfAll parameters ++ [(n, parameters)]
  | .number _ => []
  | .string _ => []

def postorderOfAll : List (Expression K) → List (Name K × List (Expression K))
  | [] => []
  | e :: es => e.postorder ++ postorderOfAll es

end

mutual

/-- The value that a parameter stands for. -/
inductive Stands (resolve : Resolver K ε α) : Expression K → Value α → Prop
  | number (x : Binary64) : Stands resolve (.number x) (.number x)
  | string (t : Text) : Stands resolve (.string t) (.string t)
  | call {n : Name K} {parameters : List (Expression K)} {values : List (Value α)} {a : α}
      (hvalues : StandAll resolve parameters values) (ha : (resolve n values).result = .ok a) :
      Stands resolve (.call n parameters) (.plugin a)

/-- The values that parameters stand for, in their order. -/
inductive StandAll (resolve : Resolver K ε α) : List (Expression K) → List (Value α) → Prop
  | nil : StandAll resolve [] []
  | cons {e : Expression K} {es : List (Expression K)} {value : Value α}
      {values : List (Value α)} (hvalue : Stands resolve e value)
      (hvalues : StandAll resolve es values) : StandAll resolve (e :: es) (value :: values)

end

namespace Call

variable (resolve : Resolver K ε α)

def result (c : Call K α) : Except PluginError α := (resolve c.name c.values).result

/-- The call is the one that is written at a place of the tree. -/
def At (place : Name K × List (Expression K)) (c : Call K α) : Prop :=
  c.name = place.1 ∧ StandAll resolve place.2 c.values

def Succeeds (c : Call K α) : Prop := ∃ a, c.result resolve = .ok a

end Call

variable {resolve : Resolver K ε α}

/-! ### Values -/

mutual

theorem Expression.stands_of_evaluate {e : Expression K} {calls : List (Call K α)} {w : Value α}
    (h : e.evaluate resolve.recorded = ⟨calls, .ok w⟩) : Stands resolve e w := by
  match e with
  | .number x =>
      obtain ⟨-, rfl⟩ := Traced.ok_pure_iff.mp h
      exact .number x
  | .string t =>
      obtain ⟨-, rfl⟩ := Traced.ok_pure_iff.mp h
      exact .string t
  | .call n es =>
      obtain ⟨before, values, after, a, hvalues, ha, rfl, -⟩ := Expression.evaluate_call_iff.mp h
      exact .call (standAll_of_evaluateAll hvalues) (congrArg Traced.result ha)

theorem standAll_of_evaluateAll {es : List (Expression K)} {calls : List (Call K α)}
    {values : List (Value α)} (h : evaluateAll resolve.recorded es = ⟨calls, .ok values⟩) :
    StandAll resolve es values := by
  match es with
  | [] =>
      obtain ⟨-, rfl⟩ := evaluateAll_nil_iff.mp h
      exact .nil
  | e :: es =>
      obtain ⟨before, value, after, rest, hvalue, hrest, rfl, -⟩ := evaluateAll_cons_iff.mp h
      exact .cons (Expression.stands_of_evaluate hvalue) (standAll_of_evaluateAll hrest)

end

/-! ### The order of calls -/

/-- The calls of these places are made in their order, either all of them and all with
success, or up to one that fails. -/
inductive Follows (resolve : Resolver K ε α) (places : List (Name K × List (Expression K))) :
    Traced (Call K α) β → Prop
  | completed {calls : List (Call K α)} {b : β}
      (hcalls : List.Forall₂ (Call.At resolve) places calls)
      (hok : ∀ c ∈ calls, c.Succeeds resolve) : Follows resolve places ⟨calls, .ok b⟩
  | failed {done rest : List (Name K × List (Expression K))}
      {place : Name K × List (Expression K)} {calls : List (Call K α)} {c : Call K α}
      {err : PluginError} (hplaces : places = done ++ place :: rest)
      (hcalls : List.Forall₂ (Call.At resolve) done calls)
      (hok : ∀ c ∈ calls, c.Succeeds resolve) (hc : c.At resolve place)
      (herr : c.result resolve = .error err) : Follows resolve places ⟨calls ++ [c], .error err⟩

namespace Follows

variable {places places' : List (Name K × List (Expression K))}

theorem of_pure (b : β) : Follows resolve [] (pure b) :=
  completed .nil fun _ hc => absurd hc List.not_mem_nil

/-- One evaluation after the other, the second only if the first succeeded. -/
theorem of_bind {γ : Type} {x : Traced (Call K α) β} {f : β → Traced (Call K α) γ}
    (hx : Follows resolve places x)
    (hf : ∀ b, x.result = .ok b → Follows resolve places' (f b)) :
    Follows resolve (places ++ places') (x >>= f) := by
  cases hx with
  | @completed calls b hcalls hok =>
      have hbind : (Traced.mk calls (.ok b) >>= f) = ⟨calls ++ (f b).steps, (f b).result⟩ := rfl
      have hrest := hf b rfl
      rw [hbind]
      generalize f b = y at hrest
      cases hrest with
      | completed hcalls' hok' =>
          refine completed (List.rel_append hcalls hcalls') fun c hc => ?_
          exact (List.mem_append.mp hc).elim (hok c) (hok' c)
      | failed hplaces' hcalls' hok' hc herr =>
          rw [hplaces', ← List.append_assoc]
          dsimp only
          rw [← List.append_assoc]
          refine failed rfl (List.rel_append hcalls hcalls') (fun c hc => ?_) hc herr
          exact (List.mem_append.mp hc).elim (hok c) (hok' c)
  | @failed done rest place calls c err hplaces hcalls hok hc herr =>
      have hbind : (Traced.mk (calls ++ [c]) (.error err) >>= f) = ⟨calls ++ [c], .error err⟩ := rfl
      have hmore : places ++ places' = done ++ place :: (rest ++ places') := by
        rw [hplaces, List.append_assoc, List.cons_append]
      rw [hbind]
      exact failed hmore hcalls hok hc herr

/-- A call follows its place, whether it succeeds or fails. -/
theorem of_call {n : Name K} {es : List (Expression K)} {values : List (Value α)}
    (h : StandAll resolve es values) : Follows resolve [(n, es)] (resolve.recorded n values) := by
  have hat : Call.At resolve (n, es) ⟨n, values⟩ := ⟨rfl, h⟩
  rw [Resolver.recorded]
  cases hresult : (resolve n values).result with
  | ok a =>
      refine completed (.cons hat .nil) fun c hc => ?_
      rw [List.mem_singleton.mp hc]
      exact ⟨a, hresult⟩
  | error err =>
      rw [← List.nil_append [(⟨n, values⟩ : Call K α)]]
      exact failed rfl .nil (fun _ hc => absurd hc List.not_mem_nil) hat hresult

theorem exists_prefix {x : Traced (Call K α) β} (h : Follows resolve places x) :
    ∃ done rest, places = done ++ rest ∧ List.Forall₂ (Call.At resolve) done x.steps := by
  cases h with
  | completed hcalls _ => exact ⟨places, [], (List.append_nil places).symm, hcalls⟩
  | @failed done rest place calls c err hplaces hcalls _ hc _ =>
      refine ⟨done ++ [place], rest, ?_, List.rel_append hcalls (.cons hc .nil)⟩
      rw [hplaces, List.append_assoc, List.singleton_append]

theorem succeeds_of_mem_dropLast {x : Traced (Call K α) β} (h : Follows resolve places x)
    {c : Call K α} (hc : c ∈ x.steps.dropLast) : c.Succeeds resolve := by
  cases h with
  | @completed calls b _ hok => exact hok c (List.dropLast_subset calls hc)
  | failed _ _ hok _ _ =>
      rw [List.dropLast_concat] at hc
      exact hok c hc

theorem ok_iff {x : Traced (Call K α) β} (h : Follows resolve places x) :
    (∃ b, x.result = .ok b) ↔
      x.steps.length = places.length ∧ ∀ c ∈ x.steps, c.Succeeds resolve := by
  cases h with
  | @completed calls b hcalls hok => exact iff_of_true ⟨b, rfl⟩ ⟨hcalls.length_eq.symm, hok⟩
  | @failed done rest place calls c err _ _ _ _ herr =>
      refine iff_of_false (fun ⟨b, hb⟩ => ?_) fun ⟨_, hok⟩ => ?_
      · contradiction
      · obtain ⟨a, ha⟩ := hok c (List.mem_append_right calls List.mem_cons_self)
        rw [herr] at ha
        contradiction

theorem error_of_last {x : Traced (Call K α) β} (h : Follows resolve places x)
    {err : PluginError} (hx : x.result = .error err) :
    ∃ c, x.steps.getLast? = some c ∧ c.result resolve = .error err := by
  cases h with
  | completed _ _ => contradiction
  | @failed done rest place calls c err' _ _ _ _ herr =>
      obtain rfl := Except.error.inj hx
      exact ⟨c, List.getLast?_concat, herr⟩

end Follows

mutual

theorem Expression.follows_postorder (e : Expression K) :
    Follows resolve e.postorder (e.evaluate resolve.recorded) := by
  match e with
  | .number x => exact .of_pure _
  | .string t => exact .of_pure _
  | .call n es =>
      rw [Expression.postorder, Expression.evaluate]
      refine .of_bind (follows_postorderOfAll es) fun values hvalues => ?_
      have hevaluate : evaluateAll resolve.recorded es =
          ⟨(evaluateAll resolve.recorded es).steps, .ok values⟩ := by rw [← hvalues]
      rw [← List.append_nil [(n, es)]]
      exact .of_bind (.of_call (standAll_of_evaluateAll hevaluate)) fun a _ => .of_pure _

theorem follows_postorderOfAll (es : List (Expression K)) :
    Follows resolve (postorderOfAll es) (evaluateAll resolve.recorded es) := by
  match es with
  | [] => exact .of_pure _
  | e :: es =>
      rw [postorderOfAll, evaluateAll]
      refine .of_bind e.follows_postorder fun value _ => ?_
      rw [← List.append_nil (postorderOfAll es)]
      exact .of_bind (follows_postorderOfAll es) fun values _ => .of_pure _

end

/-- An evaluation goes through the calls of the tree from left to right, parameters first. Each
call has the values of its own parameters, all but the last have succeeded, and the evaluation
succeeds if it came to the end; else it ends with the error of the last call. A selector whose
parameters cannot be read makes no call at all. -/
theorem calls_are_made_in_postorder (resolve : Resolver K ε α) :
    (∀ e : Expression K,
      let calls := (e.evaluate resolve.recorded).steps
      (∃ done rest, e.postorder = done ++ rest ∧ List.Forall₂ (Call.At resolve) done calls) ∧
      (∀ c ∈ calls.dropLast, c.Succeeds resolve) ∧
      ((∃ w, (e.evaluate resolve).result = .ok w) ↔
        calls.length = e.postorder.length ∧ ∀ c ∈ calls, c.Succeeds resolve) ∧
      (∀ w, (e.evaluate resolve).result = .ok w → Stands resolve e w) ∧
      ∀ err, (e.evaluate resolve).result = .error err →
        ∃ c, calls.getLast? = some c ∧ c.result resolve = .error err) ∧
    ∀ (s : Selector K) (err : PluginError), s.parameters = .error err →
      (s.evaluate resolve.recorded).steps = [] ∧ s.evaluate resolve = .fail err := by
  refine ⟨fun e => ?_, fun s err h => ?_⟩
  · have hsame (n : Name K) (values : List (Value α)) :
        (resolve n values).result = (resolve.recorded n values).result := rfl
    have hresult := e.result_evaluate_congr hsame
    have hfollows : Follows resolve e.postorder (e.evaluate resolve.recorded) :=
      e.follows_postorder
    rw [hresult]
    refine ⟨hfollows.exists_prefix, fun c hc => hfollows.succeeds_of_mem_dropLast hc,
      hfollows.ok_iff, fun w hw => ?_, fun err herr => hfollows.error_of_last herr⟩
    have hevaluate : e.evaluate resolve.recorded =
        ⟨(e.evaluate resolve.recorded).steps, .ok w⟩ := by rw [← hw]
    exact e.stands_of_evaluate hevaluate
  · rw [Selector.evaluate, Selector.evaluate, h]
    exact ⟨rfl, rfl⟩

end PluginForms
