import PluginForms.Number.Binary64
import PluginForms.Plugin.Name

/-!
The tree that a parameter list stands for, and the values that parameters have
once the plugins they call are resolved.
-/

namespace PluginForms

/-- A parameter as it is written. A call without a list has no parameters. -/
inductive Expression (K : Kind)
  | call (name : Name K) (parameters : List (Expression K))
  | number (value : Binary64)
  | string (text : Text)

/-- A parameter as a plugin receives it. -/
inductive Value (α : Type)
  | number (value : Binary64)
  | string (text : Text)
  | plugin (plugin : α)
  deriving DecidableEq

namespace Value

variable {α : Type}

def number? : Value α → Option Binary64
  | .number x => some x
  | _ => none

def string? : Value α → Option Text
  | .string t => some t
  | _ => none

def plugin? : Value α → Option α
  | .plugin p => some p
  | _ => none

/-- What messages call a value of this sort. -/
def sort : Value α → Text
  | .number _ => "number".toList
  | .string _ => "string".toList
  | .plugin _ => "plugin".toList

end Value

end PluginForms
