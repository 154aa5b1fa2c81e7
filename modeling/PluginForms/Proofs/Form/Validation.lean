import PluginForms.Proofs.Form.Store
import PluginForms.Proofs.Text.Entries
import PluginForms.Proofs.Text.Sorted

/-!
What the basic form handler says of the fields it is given. The declared form gives the order
and the supplied fields the content: for each declared reference the first field supplied for
it counts, and what is wrong with that field is listed in its place. Fields that the form does
not declare are refused before any validator is looked up, so no step is taken for them, and the
refusal names them so that one can tell from its text which they are.
-/

namespace PluginForms

variable {σ τ : Type}

/-- A field is supplied for the reference, and the form declares none. -/
def Form.Undeclared (form : Form) (fields : List Field) (r : Reference) : Prop :=
  form.contains r = false ∧ ∃ x ∈ fields, x.reference = r

namespace Field

/-- No field before it has the same reference. -/
def IsFirst (fields : List Field) (x : Field) : Prop :=
  ∃ before after, fields = before ++ x :: after ∧ ∀ y ∈ before, y.reference ≠ x.reference

/-- The problems of a field by the validators of its context, with the steps of finding them. -/
inductive Yields (validation : Reference → ValidatorContext τ) (x : Field) :
    Recorded τ (List Problem) → Prop
  | unvalidated (h : x.validator = none) : Yields validation x ⟨[], []⟩
  | unresolved {s : Selector .validator} {steps : List τ} {e : PluginError}
      (hs : x.validator = some s)
      (h : (validation x.reference).check s x.value = ⟨steps, .error e⟩) :
      Yields validation x
        ⟨steps, [⟨x.reference, "Unknown validator ".toList ++ s.text, x.value⟩]⟩
  | validated {s : Selector .validator} {steps : List τ} {problems : List Problem}
      (hs : x.validator = some s)
      (h : (validation x.reference).check s x.value = ⟨steps, .ok problems⟩) :
      Yields validation x
        ⟨steps, problems.map fun p => ⟨p.reference, p.reason, p.value.or x.value⟩⟩

variable {fields fields' : List Field} {x : Field} {r : Reference}

theorem find?_reference_eq_some_iff :
    fields.find? (·.reference == r) = some x ↔ x.reference = r ∧ x.IsFirst fields := by
  rw [List.find?_eq_some_iff_append, beq_iff_eq]
  refine and_congr_right fun hr => ?_
  simp [IsFirst, hr]

theorem find?_reference_isSome_iff :
    (fields.find? (·.reference == r)).isSome = true ↔ r ∈ fields.map (·.reference) := by
  rw [List.find?_isSome, List.mem_map]
  simp only [beq_iff_eq]

/-- The first fields and the references they belong to are the same thing told twice. -/
theorem find?_reference_congr (h : ∀ x : Field, x.IsFirst fields' ↔ x.IsFirst fields) :
    fields'.find? (·.reference == r) = fields.find? (·.reference == r) := by
  refine Option.ext fun x => ?_
  rw [find?_reference_eq_some_iff, find?_reference_eq_some_iff, h x]

theorem mem_references_congr (h : ∀ x : Field, x.IsFirst fields' ↔ x.IsFirst fields) :
    r ∈ fields'.map (·.reference) ↔ r ∈ fields.map (·.reference) := by
  rw [← find?_reference_isSome_iff, ← find?_reference_isSome_iff, find?_reference_congr h]

end Field

theorem Reference.ext_chars {r q : Reference} (h : r.chars = q.chars) : r = q := by
  cases r
  cases q
  cases h
  rfl

theorem Reference.not_mem_comma (r : Reference) : ',' ∉ r.chars := by
  intro hmem
  have hvalid := r.valid
  have hrefused : r.chars.any refuses = true := List.any_eq_true.mpr ⟨',', hmem, by decide⟩
  rw [isReference, hrefused, Bool.not_true, Bool.and_false] at hvalid
  contradiction

namespace FormHandler

variable {ctx : FormContext σ τ} {form : Form} {fields fields' : List Field} {r : Reference}

/-! ### Fields that are not declared -/

theorem mem_undeclared_iff : r ∈ (fields.filter fun x => !form.contains x.reference).map
    (·.reference) ↔ form.Undeclared fields r := by
  rw [Form.Undeclared, List.mem_map]
  constructor
  · rintro ⟨x, hx, rfl⟩
    obtain ⟨hx, hr⟩ := List.mem_filter.mp hx
    exact ⟨Bool.not_eq_true' _ ▸ hr, x, hx, rfl⟩
  · rintro ⟨hr, x, hx, rfl⟩
    exact ⟨x, List.mem_filter.mpr ⟨hx, by rw [hr]; rfl⟩, rfl⟩

theorem supplied_of_undeclared (h : form.Undeclared fields r) : ∃ unknown : List Text,
    supplied form fields = .error (.unknownFields unknown) ∧ Sorted.Increasing id unknown ∧
      ∀ t, t ∈ unknown ↔ ∃ q, form.Undeclared fields q ∧ q.chars = t := by
  have hmem := mem_undeclared_iff.mpr h
  rw [supplied]
  split
  · rename_i hnone
    rw [hnone] at hmem
    contradiction
  · refine ⟨_, rfl, Sorted.increasing_ofList id _, fun t => ?_⟩
    have hchars (xs : List Field) :
        xs.map (·.reference.chars) = (xs.map (·.reference)).map Reference.chars := by
      rw [List.map_map]
      rfl
    rw [Sorted.mem_texts_iff, hchars, List.mem_map]
    exact exists_congr fun q => and_congr_left fun _ => mem_undeclared_iff

theorem supplied_of_declared (h : ∀ r, ¬ form.Undeclared fields r) :
    supplied form fields =
      .ok (form.fields.filterMap fun d => fields.find? (·.reference == d.reference)) := by
  have hnone : (fields.filter fun x => !form.contains x.reference) = [] := by
    refine List.eq_nil_iff_forall_not_mem.mpr fun x hx => h x.reference ?_
    exact mem_undeclared_iff.mp (List.mem_map_of_mem hx)
  rw [supplied, hnone]

/-- What is supplied depends on the first field of each reference alone. -/
theorem supplied_congr (h : ∀ x : Field, x.IsFirst fields' ↔ x.IsFirst fields) :
    supplied form fields' = supplied form fields := by
  have hundeclared (q : Reference) : form.Undeclared fields' q ↔ form.Undeclared fields q := by
    rw [Form.Undeclared, Form.Undeclared, ← List.mem_map, ← List.mem_map,
      Field.mem_references_congr h]
  by_cases hsome : ∃ q, form.Undeclared fields q
  · obtain ⟨q, hq⟩ := hsome
    obtain ⟨unknown, herror, hincreasing, hmem⟩ := supplied_of_undeclared hq
    obtain ⟨unknown', herror', hincreasing', hmem'⟩ :=
      supplied_of_undeclared ((hundeclared q).mpr hq)
    have hsame : unknown' = unknown := by
      refine hincreasing'.eq_of_mem_iff hincreasing fun t => ?_
      rw [hmem, hmem']
      simp only [hundeclared]
    rw [herror, herror', hsame]
  · have hdeclared : ∀ q, ¬ form.Undeclared fields q := not_exists.mp hsome
    rw [supplied_of_declared hdeclared,
      supplied_of_declared fun q hq => hdeclared q ((hundeclared q).mp hq)]
    simp only [Field.find?_reference_congr h]

/-! ### Fields that are -/

/-- The supplied fields stand in the order in which their references are declared. -/
theorem references_of_supplied (declared : List Field) :
    (declared.filterMap fun d => fields.find? (·.reference == d.reference)).map (·.reference) =
      (declared.map (·.reference)).filter fun r => decide (r ∈ fields.map (·.reference)) := by
  induction declared with
  | nil => rfl
  | cons d declared ih =>
      rw [List.map_cons, List.filter_cons, ← ih]
      cases hfind : fields.find? (·.reference == d.reference) with
      | none =>
          have hmem : d.reference ∉ fields.map (·.reference) := by
            rw [← Field.find?_reference_isSome_iff, hfind]
            exact Bool.false_ne_true
          rw [if_neg (by simpa using hmem), List.filterMap_cons, hfind]
      | some x =>
          have hmem : d.reference ∈ fields.map (·.reference) := by
            rw [← Field.find?_reference_isSome_iff, hfind]
            rfl
          rw [if_pos (by simpa using hmem), List.filterMap_cons, hfind, List.map_cons,
            (Field.find?_reference_eq_some_iff.mp hfind).1]

theorem isFirst_of_supplied {declared : List Field} {x : Field}
    (h : x ∈ declared.filterMap fun d => fields.find? (·.reference == d.reference)) :
    x.IsFirst fields := by
  obtain ⟨d, -, hd⟩ := List.mem_filterMap.mp h
  exact (Field.find?_reference_eq_some_iff.mp hd).2

theorem yields_fieldProblems (ctx : FormContext σ τ) (x : Field) :
    x.Yields ctx.validation (fieldProblems ctx x) := by
  rw [fieldProblems]
  cases hs : x.validator with
  | none => exact .unvalidated hs
  | some s =>
      dsimp only
      rcases hcheck : (ctx.validation x.reference).check s x.value with ⟨steps, e | problems⟩
      · exact .unresolved hs hcheck
      · have hvalues : (problems.map fun p => if p.value.isSome then p else p.withValue x.value) =
            problems.map fun p => ⟨p.reference, p.reason, p.value.or x.value⟩ := by
          refine List.map_congr_left fun p _ => ?_
          obtain ⟨reference, reason, value⟩ := p
          cases value with
          | none => rfl
          | some value => rfl
        dsimp only
        rw [hvalues]
        exact .validated hs hcheck

/-! ### The whole validation -/

theorem validate_of_supplied {supplied : List Field}
    (h : FormHandler.supplied ctx.form fields = .ok supplied) : basic.validate ctx fields =
      ⟨(supplied.map (fieldProblems ctx)).flatMap (·.steps),
        .ok ((supplied.map (fieldProblems ctx)).flatMap (·.value))⟩ := by
  have hvalidate : basic.validate ctx fields = validateBasic ctx fields := rfl
  rw [hvalidate, validateBasic, h]
  rfl

theorem validate_of_refused {e : FormError} (h : supplied ctx.form fields = .error e) :
    basic.validate ctx fields = ⟨[], .error e⟩ := by
  have hvalidate : basic.validate ctx fields = validateBasic ctx fields := rfl
  rw [hvalidate, validateBasic, h]

theorem validate_of_undeclared (h : ctx.form.Undeclared fields r) : ∃ unknown : List Text,
    basic.validate ctx fields = ⟨[], .error (.unknownFields unknown)⟩ ∧
      Sorted.Increasing id unknown ∧
      ∀ t, t ∈ unknown ↔ ∃ q, ctx.form.Undeclared fields q ∧ q.chars = t := by
  obtain ⟨unknown, herror, hunknown⟩ := supplied_of_undeclared h
  exact ⟨unknown, validate_of_refused herror, hunknown⟩

theorem validate_of_declared (h : ∀ r, ¬ ctx.form.Undeclared fields r) :
    ∃ firsts blocks, basic.validate ctx fields =
        ⟨blocks.flatMap (·.steps), .ok (blocks.flatMap (·.value))⟩ ∧
      firsts.map (·.reference) = (ctx.form.fields.map (·.reference)).filter
        (fun r => decide (r ∈ fields.map (·.reference))) ∧
      (∀ x ∈ firsts, x.IsFirst fields) ∧
      List.Forall₂ (Field.Yields ctx.validation) firsts blocks := by
  let firsts := ctx.form.fields.filterMap fun d => fields.find? (·.reference == d.reference)
  refine ⟨firsts, firsts.map (fieldProblems ctx), validate_of_supplied (supplied_of_declared h),
    references_of_supplied ctx.form.fields, fun x hx => isFirst_of_supplied hx, ?_⟩
  rw [List.forall₂_map_right_iff, List.forall₂_same]
  exact fun x _ => yields_fieldProblems ctx x

/-- Whatever is refused is refused for its undeclared references, and names these. -/
theorem unknown_of_refusal {e : FormError} (h : (basic.validate ctx fields).value = .error e) :
    ∃ unknown : List Text, e = .unknownFields unknown ∧ unknown ≠ [] ∧
      (∀ t ∈ unknown, ',' ∉ t) ∧
      ∀ q : Reference, q.chars ∈ unknown ↔ ctx.form.Undeclared fields q := by
  by_cases hsome : ∃ q, ctx.form.Undeclared fields q
  · obtain ⟨q, hq⟩ := hsome
    obtain ⟨unknown, herror, -, hmem⟩ := validate_of_undeclared hq
    rw [herror] at h
    obtain rfl := Except.error.inj h
    have hne : unknown ≠ [] := List.ne_nil_of_mem ((hmem _).mpr ⟨q, hq, rfl⟩)
    refine ⟨unknown, rfl, hne, fun t ht => ?_, fun p => ?_⟩
    · obtain ⟨p, -, rfl⟩ := (hmem t).mp ht
      exact p.not_mem_comma
    · rw [hmem]
      refine ⟨fun ⟨p', hp', hchars⟩ => ?_, fun hp => ⟨p, hp, rfl⟩⟩
      rw [← Reference.ext_chars hchars]
      exact hp'
  · obtain ⟨_, _, hok, -⟩ := validate_of_declared (not_exists.mp hsome)
    rw [hok] at h
    contradiction

/-- No reference has a comma, so the text of a refusal is that of one set of references. -/
theorem undeclared_of_message {σ' τ' : Type} {ctx' : FormContext σ' τ'} {e e' : FormError}
    (h : (basic.validate ctx fields).value = .error e)
    (h' : (basic.validate ctx' fields').value = .error e')
    (hmessage : e.message = e'.message) (r : Reference) :
    ctx.form.Undeclared fields r ↔ ctx'.form.Undeclared fields' r := by
  obtain ⟨unknown, rfl, hne, hcomma, hmem⟩ := unknown_of_refusal h
  obtain ⟨unknown', rfl, hne', hcomma', hmem'⟩ := unknown_of_refusal h'
  have hjoined : Text.commaJoin unknown = Text.commaJoin unknown' :=
    List.append_cancel_left hmessage
  rw [← hmem, ← hmem', Text.commaJoin_inj hcomma hcomma' hne hne' hjoined]

/-- Fields that are not declared are refused, all of them by name, in order and without repeats.
Nothing is done with any validator then, neither a step of looking one up nor one of running it,
and it does not matter what the validators are; the message of the refusal tells which fields it
is about. Otherwise the problems are those of the first field supplied for each declared
reference, in the order of declaration, and validators are asked about these fields alone, in the
same order. Nothing but these first fields matters. -/
theorem problems_follow_declaration (ctx : FormContext σ τ) (fields : List Field) :
    ((∃ r, ctx.form.Undeclared fields r) → ∃ unknown : List Text,
      basic.validate ctx fields = ⟨[], .error (.unknownFields unknown)⟩ ∧
      Sorted.Increasing id unknown ∧
      (∀ t, t ∈ unknown ↔ ∃ r, ctx.form.Undeclared fields r ∧ r.chars = t) ∧
      (FormError.unknownFields unknown).message =
        "Unknown form fields: ".toList ++ Text.commaJoin unknown ∧
      ∀ validation, basic.validate { ctx with validation } fields = basic.validate ctx fields) ∧
    ((∀ r, ¬ ctx.form.Undeclared fields r) → ∃ firsts blocks,
      basic.validate ctx fields = ⟨blocks.flatMap (·.steps), .ok (blocks.flatMap (·.value))⟩ ∧
      firsts.map (·.reference) = (ctx.form.fields.map (·.reference)).filter
        (fun r => decide (r ∈ fields.map (·.reference))) ∧
      (∀ x ∈ firsts, x.IsFirst fields) ∧
      List.Forall₂ (Field.Yields ctx.validation) firsts blocks) ∧
    (∀ (ctx' : FormContext σ τ) (fields' : List Field) (e e' : FormError),
      (basic.validate ctx fields).value = .error e →
      (basic.validate ctx' fields').value = .error e' →
      e.message = e'.message →
      ∀ r, ctx.form.Undeclared fields r ↔ ctx'.form.Undeclared fields' r) ∧
    ∀ fields' : List Field, (∀ x : Field, x.IsFirst fields' ↔ x.IsFirst fields) →
      basic.validate ctx fields' = basic.validate ctx fields := by
  refine ⟨fun ⟨r, hr⟩ => ?_, validate_of_declared,
    fun ctx' fields' e e' h h' hmessage => undeclared_of_message h h' hmessage, fun fields' h => ?_⟩
  · obtain ⟨unknown, hsupplied, hunknown⟩ := supplied_of_undeclared hr
    have hrefused (validation : Reference → ValidatorContext τ) :
        basic.validate { ctx with validation } fields = ⟨[], .error (.unknownFields unknown)⟩ :=
      validate_of_refused hsupplied
    obtain ⟨hincreasing, hmem⟩ := hunknown
    refine ⟨unknown, hrefused ctx.validation, hincreasing, hmem, rfl, fun validation => ?_⟩
    exact (hrefused validation).trans (hrefused ctx.validation).symm
  · have hvalidate (fields : List Field) : basic.validate ctx fields =
        validateBasic ctx fields := rfl
    rw [hvalidate, hvalidate, validateBasic, validateBasic, supplied_congr h]

end FormHandler

end PluginForms
