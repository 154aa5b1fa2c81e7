import PluginForms.Form.Basic
import PluginForms.Provider.Coding

/-!
Forms, fields and problems as JSON. Absent parts and empty lists of problems are
left out; what may be absent may also be written as `null`.
-/

namespace PluginForms

namespace Problem

def encode (p : Problem) : Json :=
  .ofMembers [("message", some (.string p.reason)), ("reference", some p.reference.encode),
    ("value", p.value)]

def shape : Json.Shape := .record "ValidationError".toList 3

def decode : Json.Decoder FormError Problem
  | .object members => do
    let reason ← Json.member members "message" Json.text
    let reference ← Json.member members "reference" Reference.decode
    let value ← Json.member members "value" (Json.optional .ok)
    let reference ← Json.require "reference" reference
    let reason ← Json.require "message" reason
    return ⟨reference, reason, value.join⟩
  | .array items => do
    let reference ← Json.element shape items 0 Reference.decode
    let reason ← Json.element shape items 1 Json.text
    let value ← Json.elementOr none items 2 (Json.optional .ok)
    Json.atMost 3 items
    return ⟨reference, reason, value⟩
  | j => throw (.type j shape)

end Problem

namespace Field

def encode (f : Field) : Json :=
  .ofMembers [("label", some (.string f.label)), ("reference", some f.reference.encode),
    ("type", f.type.map .string), ("validator", f.validator.map (·.encode)), ("value", f.value)]

def shape : Json.Shape := .record "FormField".toList 5

def decodeValidator : Json.Decoder FormError (Option (Selector .validator)) :=
  Json.optional (Selector.decode.mapReason .plugin)

def decode : Json.Decoder FormError Field
  | .object members => do
    let label ← Json.member members "label" Json.text
    let reference ← Json.member members "reference" Reference.decode
    let type ← Json.member members "type" (Json.optional Json.text)
    let validator ← Json.member members "validator" decodeValidator
    let value ← Json.member members "value" (Json.optional .ok)
    let reference ← Json.require "reference" reference
    let label ← Json.require "label" label
    return ⟨reference, label, type.join, value.join, validator.join⟩
  | .array items => do
    let reference ← Json.element shape items 0 Reference.decode
    let label ← Json.element shape items 1 Json.text
    let type ← Json.elementOr none items 2 (Json.optional Json.text)
    let value ← Json.elementOr none items 3 (Json.optional .ok)
    let validator ← Json.elementOr none items 4 decodeValidator
    Json.atMost 5 items
    return ⟨reference, label, type, value, validator⟩
  | j => throw (.type j shape)

end Field

namespace Form

def encode (f : Form) : Json :=
  .ofMembers [
    ("errors", if f.problems.isEmpty then none else some (.array (f.problems.map (·.encode)))),
    ("fields", some (.array (f.fields.map (·.encode)))), ("name", some f.name.encode)]

def shape : Json.Shape := .record "FormData".toList 3

/-- The form with these parts, which still may not be one. -/
def assemble (name : FormName) (fields : List Field) (problems : List Problem) :
    Except (Json.DecodeError FormError) Form :=
  (withFields name fields problems).mapError .rejected

def decode : Json.Decoder FormError Form
  | .object members => do
    let problems ← Json.member members "errors" (Json.listOf Problem.decode)
    let fields ← Json.member members "fields" (Json.listOf Field.decode)
    let name ← Json.member members "name" FormName.decode
    let name ← Json.require "name" name
    let fields ← Json.require "fields" fields
    assemble name fields (problems.getD [])
  | .array items => do
    let name ← Json.element shape items 0 FormName.decode
    let fields ← Json.element shape items 1 (Json.listOf Field.decode)
    let problems ← Json.elementOr [] items 2 (Json.listOf Problem.decode)
    Json.atMost 3 items
    assemble name fields problems
  | j => throw (.type j shape)

end Form

end PluginForms
