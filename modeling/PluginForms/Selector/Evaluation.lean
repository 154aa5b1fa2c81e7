import PluginForms.Plugin.Traced
import PluginForms.Selector.Basic

/-!
Evaluation of selectors: the parameters from left to right, each call after its
own parameters, the first failure ending it all. Calls go to a resolver, which
makes a plugin out of a name and values.
-/

namespace PluginForms

abbrev Resolver (K : Kind) (ε α : Type) := Name K → List (Value α) → Traced ε α

variable {K : Kind} {ε α : Type}

mutual

def Expression.evaluate (resolve : Resolver K ε α) : Expression K → Traced ε (Value α)
  | .call n parameters => do
    let values ← evaluateAll resolve parameters
    let plugin ← resolve n values
    return .plugin plugin
  | .number x => pure (.number x)
  | .string t => pure (.string t)

def evaluateAll (resolve : Resolver K ε α) : List (Expression K) → Traced ε (List (Value α))
  | [] => pure []
  | e :: es => do
    let value ← e.evaluate resolve
    let values ← evaluateAll resolve es
    return value :: values

end

def Selector.evaluate (resolve : Resolver K ε α) (s : Selector K) : Traced ε α := do
  let parameters ← Traced.ofExcept s.parameters
  let values ← evaluateAll resolve parameters
  resolve s.name values

end PluginForms
