import PluginForms.Form.Basic

/-!
What the surroundings of a form offer: the form as it is declared, access to
stored values, and the validators. Access may fail and may change a state of the
surroundings, whatever that state is. The simplest state is a store, which gives
each reference the value that was last saved for it.
-/

namespace PluginForms

/-- A computation over a state `σ` of the surroundings. When it fails the state is
what it was brought to before. -/
abbrev Access (σ α : Type) := ExceptT FormError (StateM σ) α

/-- A result that was found without the surroundings. -/
def Access.ofExcept {σ α : Type} (r : Except FormError α) : Access σ α := ExceptT.mk (pure r)

structure FormContext (σ τ : Type) where
  form : Form
  /-- The stored value of a field, if there is one. -/
  load : Field → Access σ (Option Json)
  /-- Stores the values of fields. -/
  save : List Field → Access σ Unit
  validation : Reference → ValidatorContext τ

abbrev Store := Reference → Option Json

namespace Store

def empty : Store := fun _ => none

/-- The store with `value` for `r`, or with nothing for it. -/
def put (s : Store) (r : Reference) (value : Option Json) : Store :=
  fun q => if q = r then value else s q

/-- The store with the values of `fields`, a later field before an earlier one. -/
def putAll (s : Store) (fields : List Field) : Store :=
  fields.foldl (fun s f => s.put f.reference f.value) s

end Store

namespace FormContext

/-- A context whose values are in a store. -/
def stored {τ : Type} (form : Form) (validation : Reference → ValidatorContext τ) :
    FormContext Store τ where
  form := form
  load f := do return (← get) f.reference
  save fields := modify (·.putAll fields)
  validation := validation

/-- The validators that a provider has, for each field. -/
def validationBy {ε : Type} (beyond : Check (ValidatorStep ε)) (p : ValidatorProvider ε)
    (depth : Nat) (r : Reference) : ValidatorContext (ValidatorStep ε) :=
  .ofProvider beyond p r depth

end FormContext

end PluginForms
