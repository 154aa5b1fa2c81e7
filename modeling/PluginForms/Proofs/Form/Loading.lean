import PluginForms.Proofs.Form.Distinct

/-!
Loading after saving. A submission that was saved left the value of each of its fields in the
store, or left nothing there for a field without a value, so loading finds the form as it was
submitted. Whatever else the store holds, loading takes from it the values of the form's own
fields and leaves everything else as it is, the store too; so loading once more changes nothing.
-/

namespace PluginForms

/-- What loading makes of a field. Its value is the stored one, `null` as any other, or its own
if none is stored. -/
structure Field.LoadedFrom (s : Store) (x y : Field) : Prop where
  reference : y.reference = x.reference
  label : y.label = x.label
  type : y.type = x.type
  validator : y.validator = x.validator
  stored : ∀ value, s x.reference = some value → y.value = some value
  missing : s x.reference = none → y.value = x.value

namespace Store

variable {s : Store} {x : Field} {f : Form}

theorem fill_of_some {value : Json} (h : s x.reference = some value) :
    s.fill x = x.setValue (some value) := by
  rw [fill, h]

theorem fill_of_none (h : s x.reference = none) : s.fill x = x := by
  rw [fill, h]

/-- A field whose value is stored is loaded as it is. -/
theorem fill_of_stored (h : s x.reference = x.value) : s.fill x = x := by
  cases hvalue : x.value with
  | none => exact fill_of_none (h.trans hvalue)
  | some value =>
      rw [fill_of_some (h.trans hvalue), Field.setValue, ← hvalue]

theorem loadedFrom_fill (s : Store) (x : Field) : x.LoadedFrom s (s.fill x) := by
  cases hstored : s x.reference with
  | none =>
      rw [fill_of_none hstored]
      exact ⟨rfl, rfl, rfl, rfl, fun value h => by rw [hstored] at h; contradiction, fun _ => rfl⟩
  | some value =>
      rw [fill_of_some hstored]
      exact ⟨rfl, rfl, rfl, rfl, fun value' h => hstored.symm.trans h, fun h => by
        rw [hstored] at h; contradiction⟩

theorem fill_fill (s : Store) (x : Field) : s.fill (s.fill x) = s.fill x := by
  cases hstored : s x.reference with
  | none => rw [fill_of_none hstored, fill_of_none hstored]
  | some value =>
      refine fill_of_stored ?_
      rw [fill_of_some hstored]
      exact hstored

theorem references_map_fill (s : Store) (fields : List Field) :
    (fields.map s.fill).map (·.reference) = fields.map (·.reference) := by
  rw [List.map_map]
  exact List.map_congr_left fun x _ => (s.loadedFrom_fill x).reference

/-- The form with the values that are stored for its fields. -/
def fillForm (s : Store) (f : Form) : Form where
  name := f.name
  fields := f.fields.map s.fill
  problems := f.problems
  distinct := by
    rw [references_map_fill]
    exact f.distinct

theorem fields_fillForm (s : Store) (f : Form) : (s.fillForm f).fields = f.fields.map s.fill := rfl

theorem fillForm_fillForm (s : Store) (f : Form) : s.fillForm (s.fillForm f) = s.fillForm f := by
  refine Form.eq_iff_parts_eq.mpr ⟨rfl, ?_, rfl⟩
  rw [fields_fillForm, fields_fillForm, List.map_map]
  exact List.map_congr_left fun x _ => s.fill_fill x

/-- A form whose values are all stored is loaded as it is. -/
theorem fillForm_of_stored (h : ∀ x ∈ f.fields, s x.reference = x.value) : s.fillForm f = f := by
  refine Form.eq_iff_parts_eq.mpr ⟨rfl, ?_, rfl⟩
  rw [fields_fillForm, List.map_congr_left fun x hx => fill_of_stored (h x hx), List.map_id']

end Store

namespace FormHandler

open Access

variable {τ : Type} {form f g : Form} {validation : Reference → ValidatorContext τ}
  {s s' : Store}

theorem outcome_prepare : (basic.prepare (.stored form validation) f).outcome s =
    (.ok (s.fillForm f), s) := by
  have hprepare : (basic.prepare (.stored form validation) f).outcome s =
      (f.setFields (f.fields.map s.fill), s) := outcome_prepareBasic
  have hfields : f.setFields (f.fields.map s.fill) = .ok (s.fillForm f) :=
    Form.withFields_of_nodup (s.fillForm f).distinct
  rw [hprepare, hfields]

/-- A submission without problems is the form that was submitted, and everything of it is
stored. -/
theorem saved_of_submit (h : (basic.submit (.stored form validation) f).outcome s = (.ok g, s'))
    (hnone : g.problems = []) : g = f.setProblems [] ∧ s' = s.putAll f.fields := by
  have hsubmit : (submitBasic (.stored form validation) f).outcome s = (.ok g, s') := h
  rw [outcome_submitBasic] at hsubmit
  split at hsubmit
  · obtain ⟨hg, hs⟩ := Prod.mk.inj hsubmit
    exact ⟨(Except.ok.inj hg).symm, hs.symm⟩
  · rename_i hproblems _
    obtain ⟨hg, -⟩ := Prod.mk.inj hsubmit
    obtain rfl := Except.ok.inj hg
    exact absurd hnone hproblems
  · cases hsubmit

/-- After a submission without problems the submitted form is loaded as it was returned. In any
state of the store loading succeeds. It keeps all of a form but the values of its fields, gives
each field the value that is stored for it, if there is one, and leaves the store as it is;
loading twice is loading once. -/
theorem loading_undoes_saving (form : Form) (validation : Reference → ValidatorContext τ)
    (s : Store) (f : Form) :
    let prepare := basic.prepare (.stored form validation)
    (∀ g s', (basic.submit (.stored form validation) f).outcome s = (.ok g, s') →
      g.problems = [] → (prepare g).outcome s' = (.ok g, s')) ∧
    ∃ g, (prepare f).outcome s = (.ok g, s) ∧ g.name = f.name ∧ g.problems = f.problems ∧
      List.Forall₂ (Field.LoadedFrom s) f.fields g.fields ∧ (prepare g).outcome s = (.ok g, s) := by
  intro prepare
  constructor
  · intro g s' hsubmit hnone
    obtain ⟨rfl, rfl⟩ := saved_of_submit hsubmit hnone
    have hstored : ∀ x ∈ f.fields, s.putAll f.fields x.reference = x.value :=
      fun x hx => Store.putAll_of_mem f.distinct hx
    have hfilled : (s.putAll f.fields).fillForm (f.setProblems []) = f.setProblems [] :=
      Store.fillForm_of_stored hstored
    exact outcome_prepare.trans (by rw [hfilled])
  · refine ⟨s.fillForm f, outcome_prepare, rfl, rfl, ?_, ?_⟩
    · rw [Store.fields_fillForm, List.forall₂_map_right_iff, List.forall₂_same]
      exact fun x _ => s.loadedFrom_fill x
    · exact outcome_prepare.trans (by rw [s.fillForm_fillForm])

end FormHandler

end PluginForms
