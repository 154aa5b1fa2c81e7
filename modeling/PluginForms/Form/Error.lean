import PluginForms.Plugin.Error
import PluginForms.Text.Sorted

/-!
Everything that can go wrong with forms, the errors of plugins included.
-/

namespace PluginForms

/-- How long a reference may be. -/
def referenceLimit : Nat := 255

/-- Why a text is no reference. -/
inductive ReferenceFault
  | length (text : Text)
  | character (text : Text) (character : Char)
  deriving DecidableEq, Repr

def ReferenceFault.message : ReferenceFault → Text
  | .length t =>
    "Reference \"".toList ++ t ++ "\" must be between 1 and ".toList ++
      Text.ofNat referenceLimit ++ " characters".toList
  | .character t c =>
    "Reference \"".toList ++ t ++ "\" contains ".toList ++ Text.quotedChar c

inductive FormError
  | plugin (error : PluginError)
  | unknownFields (references : List Text)
  | duplicateField (reference : Text)
  | invalidReference (fault : ReferenceFault)
  | storage (reason : Text)
  deriving DecidableEq, Repr

namespace FormError

/-- The references belong to no field. They are listed in order and without repeats. -/
def ofUnknown (references : List Text) : FormError :=
  unknownFields (Sorted.texts references)

def message : FormError → Text
  | plugin e => e.message
  | unknownFields references => "Unknown form fields: ".toList ++ Text.commaJoin references
  | duplicateField reference => "Duplicate form field: ".toList ++ reference
  | invalidReference fault => "Invalid reference: ".toList ++ fault.message
  | storage reason => "Storage operation failed: ".toList ++ reason

end FormError

end PluginForms
