import PluginForms.Form.Context

/-!
Form handlers are plugins that take a form through loading, validation and
submission. The basic one validates the fields it is given in the order of the
declared form, and saves only what no validator has a problem with.
-/

namespace PluginForms

def Kind.formHandler : Kind := ⟨"form-handler".toList, ["basic".toList]⟩

structure FormHandler (σ τ : Type) where
  /-- The form with the stored values of its fields. -/
  prepare : FormContext σ τ → Form → Access σ Form
  /-- The problems of fields, which all have to be declared, with what validators were asked
  for them. -/
  validate : FormContext σ τ → List Field → Recorded τ (Except FormError (List Problem))
  /-- The form with the problems found in it. Saves it if there are none. -/
  submit : FormContext σ τ → Form → Access σ Form

namespace FormHandler

variable {σ τ : Type}

/-- A stored value takes the place of the field's own. -/
def loaded (ctx : FormContext σ τ) (f : Field) : Access σ Field := do
  match ← ctx.load f with
  | some value => return f.setValue (some value)
  | none => return f

def prepareBasic (ctx : FormContext σ τ) (f : Form) : Access σ Form := do
  Access.ofExcept (f.setFields (← f.fields.mapM (loaded ctx)))

/-- The fields to validate: for each declared field the first one supplied for it. -/
def supplied (declared : Form) (fields : List Field) : Except FormError (List Field) :=
  match fields.filter fun f => !declared.contains f.reference with
  | [] => .ok (declared.fields.filterMap fun d => fields.find? fun f => f.reference == d.reference)
  | unknown => .error (.ofUnknown (unknown.map (·.reference.chars)))

/-- The problem of a field whose validator cannot be found. -/
def unknownValidator (f : Field) (s : Selector .validator) : Problem :=
  ⟨f.reference, "Unknown validator ".toList ++ s.text, f.value⟩

/-- The problems of one field. Those without a value of their own get the field's. -/
def fieldProblems (ctx : FormContext σ τ) (f : Field) : Recorded τ (List Problem) :=
  match f.validator with
  | none => ⟨[], []⟩
  | some s =>
    let found := (ctx.validation f.reference).check s f.value
    match found.result with
    | .ok problems =>
      ⟨found.steps, problems.map fun p => if p.value.isSome then p else p.withValue f.value⟩
    | .error _ => ⟨found.steps, [unknownValidator f s]⟩

def validateBasic (ctx : FormContext σ τ) (fields : List Field) :
    Recorded τ (Except FormError (List Problem)) :=
  match supplied ctx.form fields with
  | .ok fields =>
    let found := Recorded.concat (fields.map (fieldProblems ctx))
    ⟨found.steps, .ok found.value⟩
  | .error e => ⟨[], .error e⟩

def submitBasic (ctx : FormContext σ τ) (f : Form) : Access σ Form := do
  match ← Access.ofExcept (validateBasic ctx f.fields).value with
  | [] =>
    ctx.save f.fields
    return f.setProblems []
  | problems => return f.setProblems problems

def basic : FormHandler σ τ := ⟨prepareBasic, validateBasic, submitBasic⟩

def basicUrl : Text := "urn:formwork:form-handler:basic".toList

def basicName : Name .formHandler := ⟨"basic".toList, by decide⟩

/-- The provider of the basic form handler. -/
def basicProvider {ε : Type} (urls : Url.Reader) :
    Except PluginError (Provider .formHandler ε (FormHandler σ τ)) := do
  let url ← (urls basicUrl).mapError (.invalidUrl basicUrl)
  Provider.ofTable urls [⟨basicName, url, fun values =>
    if values.isEmpty then pure basic
    else .fail (.invalidParameters basicName.chars "takes no parameters".toList)⟩]

end FormHandler

end PluginForms
