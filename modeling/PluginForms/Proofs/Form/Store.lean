import PluginForms.Form.Handler

/-!
The basic form handler over a store, without the computations it is written in: what
each of its requests returns and what it leaves in the store. Loading reads the store,
and only a submission without problems writes to it.
-/

namespace PluginForms

/-- The field with a value that was loaded for it, or as it was if there is none. -/
def Field.filled (x : Field) : Option Json → Field
  | some value => x.setValue (some value)
  | none => x

theorem Field.filled_reference (x : Field) (value : Option Json) :
    (x.filled value).reference = x.reference := by
  cases value <;> rfl

theorem Form.contains_iff {f : Form} {r : Reference} :
    f.contains r = true ↔ ∃ x ∈ f.fields, x.reference = r := by
  rw [contains, field?, List.find?_isSome]
  simp only [beq_iff_eq]

namespace Store

variable {s : Store} {fields : List Field} {x : Field} {r : Reference} {value : Option Json}

@[simp] theorem put_self : s.put r value r = value := if_pos rfl

theorem put_of_ne {q : Reference} (h : q ≠ r) : s.put r value q = s q := if_neg h

@[simp] theorem putAll_nil : s.putAll [] = s := rfl

@[simp] theorem putAll_cons :
    s.putAll (x :: fields) = (s.put x.reference x.value).putAll fields := rfl

theorem putAll_of_forall_ne (h : ∀ x ∈ fields, x.reference ≠ r) : s.putAll fields r = s r := by
  induction fields generalizing s with
  | nil => rfl
  | cons y fields ih =>
      have hy : r ≠ y.reference := (h y List.mem_cons_self).symm
      rw [putAll_cons, ih fun x hx => h x (List.mem_cons_of_mem y hx), put_of_ne hy]

theorem putAll_of_mem (hdistinct : (fields.map (·.reference)).Nodup) (hx : x ∈ fields) :
    s.putAll fields x.reference = x.value := by
  induction fields generalizing s with
  | nil => contradiction
  | cons y fields ih =>
      rw [List.map_cons, List.nodup_cons] at hdistinct
      rw [putAll_cons]
      rcases List.mem_cons.mp hx with rfl | hx
      · -- no later field has the reference of this one
        have hlater : ∀ z ∈ fields, z.reference ≠ x.reference := by
          intro z hz hzx
          exact hdistinct.1 (List.mem_map.mpr ⟨z, hz, hzx⟩)
        rw [putAll_of_forall_ne hlater, put_self]
      · exact ih hdistinct.2 hx

/-- The field with the value that is stored for it, if there is one. -/
def fill (s : Store) (x : Field) : Field :=
  match s x.reference with
  | some value => x.setValue (some value)
  | none => x

end Store

namespace Access

variable {σ α β : Type} {s : σ}

/-- The result of a computation that starts in `s`, and the state it ends in. -/
def outcome (x : Access σ α) (s : σ) : Except FormError α × σ := x.run.run s

theorem outcome_ofExcept {r : Except FormError α} : (ofExcept r : Access σ α).outcome s = (r, s) :=
  rfl

theorem outcome_bind {x : Access σ α} {next : α → Access σ β} :
    (x >>= next).outcome s = StateT.run (ExceptT.bindCont next (x.outcome s).1) (x.outcome s).2 :=
  rfl

/-- A computation that succeeded hands its result and its state on. -/
theorem outcome_bind_of_ok {x : Access σ α} {next : α → Access σ β} {a : α} {s' : σ}
    (h : x.outcome s = (.ok a, s')) : (x >>= next).outcome s = (next a).outcome s' := by
  rw [outcome_bind, h]
  rfl

/-- One that failed ends everything. -/
theorem outcome_bind_of_error {x : Access σ α} {next : α → Access σ β} {e : FormError} {s' : σ}
    (h : x.outcome s = (.error e, s')) : (x >>= next).outcome s = (.error e, s') := by
  rw [outcome_bind, h]
  rfl

variable {x : Access σ α} {next : α → Access σ β} {b : β} {e : FormError} {s' : σ}

theorem outcome_bind_eq_ok_iff : (x >>= next).outcome s = (.ok b, s') ↔
    ∃ a s₁, x.outcome s = (.ok a, s₁) ∧ (next a).outcome s₁ = (.ok b, s') := by
  rcases hx : x.outcome s with ⟨_ | a, s₁⟩
  · rw [outcome_bind_of_error hx]
    simp
  · rw [outcome_bind_of_ok hx]
    refine ⟨fun h => ⟨a, s₁, rfl, h⟩, fun ⟨a', s₂, hok, h⟩ => ?_⟩
    cases hok
    exact h

theorem outcome_bind_eq_error_iff : (x >>= next).outcome s = (.error e, s') ↔
    x.outcome s = (.error e, s') ∨
      ∃ a s₁, x.outcome s = (.ok a, s₁) ∧ (next a).outcome s₁ = (.error e, s') := by
  rcases hx : x.outcome s with ⟨_ | a, s₁⟩
  · rw [outcome_bind_of_error hx]
    simp
  · rw [outcome_bind_of_ok hx]
    refine ⟨fun h => .inr ⟨a, s₁, rfl, h⟩, fun h => ?_⟩
    obtain hfailed | ⟨a', s₂, hok, h⟩ := h
    · cases hfailed
    · cases hok
      exact h

/-- Something that the computations keep of each element is kept of the whole list. -/
theorem map_eq_of_mapM {γ : Type} {f : α → Access σ β} {g : α → γ} {k : β → γ} {l : List α}
    {bs : List β} (h : (l.mapM f).outcome s = (.ok bs, s'))
    (hkeep : ∀ a s b s', (f a).outcome s = (.ok b, s') → k b = g a) : bs.map k = l.map g := by
  induction l generalizing s bs with
  | nil =>
      cases h
      rfl
  | cons a l ih =>
      rw [List.mapM_cons, outcome_bind_eq_ok_iff] at h
      obtain ⟨b, s₁, hfirst, h⟩ := h
      obtain ⟨bs, s₂, hrest, h⟩ := outcome_bind_eq_ok_iff.mp h
      cases h
      rw [List.map_cons, List.map_cons, hkeep a s b s₁ hfirst, ih hrest]

end Access

namespace FormHandler

open Access

variable {σ τ : Type}

theorem loaded_eq_ok_iff {ctx : FormContext σ τ} {s s' : σ} {x y : Field} :
    (loaded ctx x).outcome s = (.ok y, s') ↔
      ∃ value, (ctx.load x).outcome s = (.ok value, s') ∧ x.filled value = y := by
  rw [loaded, outcome_bind_eq_ok_iff]
  constructor
  · rintro ⟨value, s₁, hload, h⟩
    cases value <;> cases h <;> exact ⟨_, hload, rfl⟩
  · rintro ⟨value, hload, rfl⟩
    refine ⟨value, s', hload, ?_⟩
    cases value <;> rfl

variable {form f : Form} {validation : Reference → ValidatorContext τ} {s : Store}

theorem outcome_loaded (x : Field) :
    (loaded (.stored form validation) x).outcome s = (.ok (s.fill x), s) :=
  loaded_eq_ok_iff.mpr ⟨s x.reference, rfl, rfl⟩

theorem outcome_mapM_loaded (fields : List Field) :
    (fields.mapM (loaded (.stored form validation))).outcome s =
      (.ok (fields.map s.fill), s) := by
  induction fields with
  | nil => rfl
  | cons x fields ih =>
      rw [List.mapM_cons, outcome_bind_of_ok (outcome_loaded x), outcome_bind_of_ok ih]
      rfl

/-- Loading takes the stored values and leaves the store as it is. -/
theorem outcome_prepareBasic :
    (prepareBasic (.stored form validation) f).outcome s =
      (f.setFields (f.fields.map s.fill), s) := by
  rw [prepareBasic, outcome_bind_of_ok (outcome_mapM_loaded f.fields), outcome_ofExcept]

/-- A submission fails if its validation does, and is stored if that finds no problems. -/
theorem outcome_submitBasic :
    (submitBasic (.stored form validation) f).outcome s =
      match (validateBasic (.stored form validation) f.fields).value with
      | .ok [] => (.ok (f.setProblems []), s.putAll f.fields)
      | .ok problems => (.ok (f.setProblems problems), s)
      | .error e => (.error e, s) := by
  have hvalidate := outcome_ofExcept (s := s)
    (r := (validateBasic (.stored form validation) f.fields).value)
  cases hresult : (validateBasic (.stored form validation) f.fields).value with
  | error e =>
      rw [hresult] at hvalidate
      rw [submitBasic, hresult, outcome_bind_of_error hvalidate]
  | ok problems =>
      rw [hresult] at hvalidate
      rw [submitBasic, hresult, outcome_bind_of_ok hvalidate]
      cases problems with
      | nil => rfl
      | cons p problems => rfl

/-- Only declared fields are validated at all. -/
theorem declared_of_validateBasic {ctx : FormContext Store τ} {fields : List Field}
    {problems : List Problem} (h : (validateBasic ctx fields).value = .ok problems) :
    ∀ x ∈ fields, ctx.form.contains x.reference = true := by
  intro x hx
  cases hsupplied : supplied ctx.form fields with
  | error e =>
      rw [validateBasic, hsupplied] at h
      contradiction
  | ok fields' =>
      rw [supplied] at hsupplied
      split at hsupplied
      · rename_i hunknown
        simpa using List.filter_eq_nil_iff.mp hunknown x hx
      · contradiction

end FormHandler

end PluginForms
