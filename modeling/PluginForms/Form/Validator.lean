import PluginForms.Form.Reference
import PluginForms.Provider.Basic

/-!
Validators are plugins that find problems with the value of a field. Each is
told which field it looks at and may have another validator look at a value.
Whatever is done with validators is recorded as steps. Nothing keeps validators
from handing on forever; where they may hand on only so often, it is left open
what comes after that.
-/

namespace PluginForms

def Kind.validator : Kind :=
  ⟨"validator".toList,
    ["non-null", "text-length", "email-address", "collection", "absolute-url"].map (·.toList)⟩

/-- Something that is wrong with a field, and with which value if one is known. -/
structure Problem where
  reference : Reference
  reason : Text
  value : Option Json := none

namespace Problem

def withValue (p : Problem) (value : Option Json) : Problem := { p with value }

def text (p : Problem) : Text := p.reference.chars ++ ": ".toList ++ p.reason

end Problem

/-- What was found, and the steps that were taken for it. -/
structure Recorded (τ α : Type) where
  steps : List τ
  value : α

/-- Lists that were found one after the other. -/
def Recorded.concat {τ α : Type} (parts : List (Recorded τ (List α))) : Recorded τ (List α) :=
  ⟨parts.flatMap (·.steps), parts.flatMap (·.value)⟩

/-- Finds a validator by its selector and has it look at a value. -/
abbrev Check (τ : Type) := Selector .validator → Option Json → Traced τ (List Problem)

/-- What a validator knows of the field it looks at. By `check` it hands a value of the
same field on to another validator. -/
structure ValidatorContext (τ : Type) where
  reference : Reference
  check : Check τ

/-- Every problem that is found with a value, for a value that may be absent. -/
abbrev Validator (τ : Type) := Option Json → ValidatorContext τ → Recorded τ (List Problem)

/-- What happens to validators that come from a provider with steps `ε`. -/
inductive ValidatorStep (ε : Type)
  | lookUp (s : Selector .validator)
  /-- A step of the provider on the way to a validator. -/
  | make (step : ε)
  | run (s : Selector .validator) (value : Option Json)

abbrev ValidatorProvider (ε : Type) := Provider .validator ε (Validator (ValidatorStep ε))

namespace ValidatorContext

variable {ε : Type}

/-- Looks up the validator for `s` and runs it in the context. -/
def consult (p : ValidatorProvider ε) (ctx : ValidatorContext (ValidatorStep ε)) :
    Check (ValidatorStep ε) := fun s value =>
  let found := p.select s
  let steps := .lookUp s :: found.steps.map .make
  match found.result with
  | .error e => ⟨steps, .error e⟩
  | .ok validator =>
    let problems := validator value ctx
    ⟨steps ++ .run s value :: problems.steps, .ok problems.value⟩

/-- The context of `reference` with the validators of `p`, which hand on to one another
up to `depth` deep. What is handed on from there is answered by `beyond`. -/
def ofProvider (beyond : Check (ValidatorStep ε)) (p : ValidatorProvider ε)
    (reference : Reference) : Nat → ValidatorContext (ValidatorStep ε)
  | 0 => ⟨reference, beyond⟩
  | depth + 1 => ⟨reference, consult p (ofProvider beyond p reference depth)⟩

end ValidatorContext

end PluginForms
