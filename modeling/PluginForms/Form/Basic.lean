import PluginForms.Form.Validator

/-!
Fields and forms. A form is a named list of fields, no two of which have the
same reference, together with the problems that were last found in them.
-/

namespace PluginForms

structure Field where
  reference : Reference
  label : Text
  /-- The type of the value, as the form declares it. -/
  type : Option Text := none
  value : Option Json := none
  validator : Option (Selector .validator) := none

namespace Field

def setLabel (f : Field) (label : Text) : Field := { f with label }

def setType (f : Field) (type : Option Text) : Field := { f with type }

def setValue (f : Field) (value : Option Json) : Field := { f with value }

def setValidator (f : Field) (validator : Option (Selector .validator)) : Field :=
  { f with validator }

end Field

structure Form where
  name : FormName
  fields : List Field
  problems : List Problem
  distinct : (fields.map (·.reference)).Nodup

namespace Form

/-- The first reference that one before it repeats. -/
def repeated? (seen : List Reference) : List Reference → Option Reference
  | [] => none
  | r :: rs => if r ∈ seen then some r else repeated? (r :: seen) rs

theorem nodup_of_repeated? {seen rs : List Reference} (h : repeated? seen rs = none) :
    rs.Nodup ∧ ∀ r ∈ rs, r ∉ seen := by
  induction rs generalizing seen with
  | nil => simp
  | cons r rs ih =>
    simp only [repeated?] at h
    split at h
    · cases h
    · rename_i hr
      obtain ⟨hnodup, hseen⟩ := ih h
      simp only [List.mem_cons, not_or] at hseen
      refine ⟨List.nodup_cons.mpr ⟨fun hmem => (hseen r hmem).1 rfl, hnodup⟩, ?_⟩
      intro s hs
      rcases List.mem_cons.mp hs with rfl | hs
      · exact hr
      · exact (hseen s hs).2

def withFields (name : FormName) (fields : List Field) (problems : List Problem) :
    Except FormError Form :=
  match h : repeated? [] (fields.map (·.reference)) with
  | some r => .error (.duplicateField r.chars)
  | none => .ok ⟨name, fields, problems, (nodup_of_repeated? h).1⟩

def ofFields (name : FormName) (fields : List Field) : Except FormError Form :=
  withFields name fields []

def field? (f : Form) (r : Reference) : Option Field :=
  f.fields.find? fun x => x.reference == r

def contains (f : Form) (r : Reference) : Bool := (f.field? r).isSome

def hasProblems (f : Form) : Bool := !f.problems.isEmpty

def setFields (f : Form) (fields : List Field) : Except FormError Form :=
  withFields f.name fields f.problems

/-- `x` in place of the field with its reference. -/
def replaced (f : Form) (x : Field) : List Field :=
  f.fields.map fun y => if y.reference = x.reference then x else y

@[simp] theorem replaced_references (f : Form) (x : Field) :
    (f.replaced x).map (·.reference) = f.fields.map (·.reference) := by
  simp only [replaced, List.map_map]
  refine List.map_congr_left fun y _ => ?_
  simp only [Function.comp]
  split
  · rename_i h; exact h.symm
  · rfl

def setField (f : Form) (x : Field) : Except FormError Form :=
  if f.contains x.reference then
    .ok { f with
      fields := f.replaced x
      distinct := (f.replaced_references x).symm ▸ f.distinct }
  else .error (.ofUnknown [x.reference.chars])

def setProblems (f : Form) (problems : List Problem) : Form := { f with problems }

end Form

end PluginForms
