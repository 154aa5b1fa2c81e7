import PluginForms.Plugin.Error

/-!
The answer of a provider together with the steps that led to it. What counts as
a step is open: tables of plugins use the calls of their factories.
-/

namespace PluginForms

structure Traced (ε α : Type) where
  steps : List ε
  result : Except PluginError α

namespace Traced

variable {ε α β : Type}

def bind (x : Traced ε α) (f : α → Traced ε β) : Traced ε β :=
  match x.result with
  | .ok a =>
    let y := f a
    ⟨x.steps ++ y.steps, y.result⟩
  | .error e => ⟨x.steps, .error e⟩

instance : Monad (Traced ε) where
  pure a := ⟨[], .ok a⟩
  bind := bind

def fail (e : PluginError) : Traced ε α := ⟨[], .error e⟩

/-- A result that took no step. -/
def ofExcept (r : Except PluginError α) : Traced ε α := ⟨[], r⟩

/-- `x`, with the step `s` before it. -/
def after (s : ε) (x : Traced ε α) : Traced ε α := ⟨s :: x.steps, x.result⟩

@[simp] theorem result_pure (a : α) : (pure a : Traced ε α).result = .ok a := rfl

@[simp] theorem steps_pure (a : α) : (pure a : Traced ε α).steps = [] := rfl

@[simp] theorem result_bind (x : Traced ε α) (f : α → Traced ε β) :
    (x >>= f).result = x.result >>= fun a => (f a).result := by
  change (Traced.bind x f).result = _
  unfold Traced.bind
  cases x.result <;> rfl

@[simp] theorem result_ofExcept (r : Except PluginError α) :
    (ofExcept r : Traced ε α).result = r := rfl

@[simp] theorem steps_ofExcept (r : Except PluginError α) :
    (ofExcept r : Traced ε α).steps = [] := rfl

@[simp] theorem result_fail (e : PluginError) : (fail e : Traced ε α).result = .error e := rfl

@[simp] theorem steps_fail (e : PluginError) : (fail e : Traced ε α).steps = [] := rfl

end Traced

end PluginForms
