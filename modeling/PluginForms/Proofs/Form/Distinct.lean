import Mathlib.Data.List.Nodup
import PluginForms.Form.Coding
import PluginForms.Proofs.Form.Store
import PluginForms.Proofs.Json.Members

/-!
The references of a form. Fields enter a form as a whole list, and only there it is looked
whether a reference occurs twice; the list is refused for the first field whose reference
does. Everything else that is done to a form leaves the references where they are: a field is
replaced by one with the same reference, and loading and submitting change values and
problems. So whatever was done to a form, its references are those of the list it was last
given, and they are all different.
-/

namespace PluginForms

namespace Field

/-- One before it has the same reference, and no two of those before it do. -/
def IsFirstRepeat (fields : List Field) (x : Field) : Prop :=
  ∃ before after, fields = before ++ x :: after ∧ x.reference ∈ before.map (·.reference) ∧
    (before.map (·.reference)).Nodup

end Field

namespace Form

variable {name : FormName} {fields : List Field} {problems : List Problem} {f g : Form} {x : Field}

theorem eq_iff_parts_eq :
    f = g ↔ f.name = g.name ∧ f.fields = g.fields ∧ f.problems = g.problems := by
  cases f
  cases g
  rw [mk.injEq]

/-! ### Fields given as a whole -/

/-- References that are new and different are passed over. -/
theorem repeated?_append {seen before rest : List Reference} (hdistinct : before.Nodup)
    (hseen : ∀ r ∈ before, r ∉ seen) :
    repeated? seen (before ++ rest) = repeated? (before.reverse ++ seen) rest := by
  induction before generalizing seen with
  | nil => rfl
  | cons r before ih =>
      rw [List.nodup_cons] at hdistinct
      rw [List.cons_append, repeated?, if_neg (hseen r List.mem_cons_self), ih hdistinct.2]
      · rw [List.reverse_cons, List.append_assoc, List.singleton_append]
      · intro q hq
        rw [List.mem_cons, not_or]
        exact ⟨fun h => hdistinct.1 (h ▸ hq), hseen q (List.mem_cons_of_mem r hq)⟩

theorem repeated?_eq_none_iff {rs : List Reference} : repeated? [] rs = none ↔ rs.Nodup := by
  refine ⟨fun h => (nodup_of_repeated? h).1, fun h => ?_⟩
  rw [← List.append_nil rs, repeated?_append h fun _ _ => List.not_mem_nil, repeated?]

theorem exists_of_repeated? {seen rs : List Reference} {r : Reference}
    (h : repeated? seen rs = some r) : ∃ before after, rs = before ++ r :: after ∧
      (r ∈ before ∨ r ∈ seen) ∧ before.Nodup ∧ ∀ q ∈ before, q ∉ seen := by
  induction rs generalizing seen with
  | nil => contradiction
  | cons q rs ih =>
      rw [repeated?] at h
      split at h
      · rename_i hq
        obtain rfl := Option.some.inj h
        exact ⟨[], rs, rfl, .inr hq, List.nodup_nil, fun _ hmem => by contradiction⟩
      · rename_i hq
        obtain ⟨before, after, rfl, hr, hdistinct, hseen⟩ := ih h
        simp only [List.mem_cons, not_or] at hr hseen
        refine ⟨q :: before, after, rfl, ?_, ?_, ?_⟩
        · rw [List.mem_cons]
          tauto
        · exact List.nodup_cons.mpr ⟨fun hmem => (hseen q hmem).1 rfl, hdistinct⟩
        · intro p hp
          rcases List.mem_cons.mp hp with rfl | hp
          · exact hq
          · exact (hseen p hp).2

/-- The reference that is found is that of the first field to repeat one. -/
theorem repeated?_eq_some_iff {r : Reference} :
    repeated? [] (fields.map (·.reference)) = some r ↔
      ∃ x : Field, x.IsFirstRepeat fields ∧ x.reference = r := by
  constructor
  · intro h
    obtain ⟨before, after, hfields, hr, hdistinct, -⟩ := exists_of_repeated? h
    obtain ⟨before, rest, rfl, rfl, hrest⟩ := List.map_eq_append_iff.mp hfields
    obtain ⟨x, after, rfl, rfl, -⟩ := List.map_eq_cons_iff.mp hrest
    exact ⟨x, ⟨before, after, rfl, hr.resolve_right List.not_mem_nil, hdistinct⟩, rfl⟩
  · rintro ⟨x, ⟨before, after, rfl, hr, hdistinct⟩, rfl⟩
    rw [List.map_append, repeated?_append hdistinct fun _ _ => List.not_mem_nil, List.map_cons,
      repeated?, if_pos]
    rw [List.append_nil, List.mem_reverse]
    exact hr

theorem withFields_of_nodup (hdistinct : (fields.map (·.reference)).Nodup) :
    withFields name fields problems = .ok ⟨name, fields, problems, hdistinct⟩ := by
  unfold withFields
  split
  · rename_i hsome
    rw [repeated?_eq_none_iff.mpr hdistinct] at hsome
    contradiction
  · rfl

theorem withFields_of_repeated? {r : Reference}
    (h : repeated? [] (fields.map (·.reference)) = some r) :
    withFields name fields problems = .error (.duplicateField r.chars) := by
  unfold withFields
  split
  · rename_i q hsome
    obtain rfl := Option.some.inj (h.symm.trans hsome)
    rfl
  · rename_i hnone
    rw [hnone] at h
    contradiction

/-- The result is the form with these parts if their references are different, and else it
reports the first field that repeats one. -/
structure Vetted (name : FormName) (fields : List Field) (problems : List Problem)
    (result : Except FormError Form) : Prop where
  ok_iff : ∀ f, result = .ok f ↔ (fields.map (·.reference)).Nodup ∧
    f.name = name ∧ f.fields = fields ∧ f.problems = problems
  error_iff : ∀ e, result = .error e ↔
    ∃ x : Field, x.IsFirstRepeat fields ∧ e = .duplicateField x.reference.chars

theorem vetted_withFields (name : FormName) (fields : List Field) (problems : List Problem) :
    Vetted name fields problems (withFields name fields problems) := by
  cases hrepeated : repeated? [] (fields.map (·.reference)) with
  | none =>
      have hdistinct := repeated?_eq_none_iff.mp hrepeated
      rw [withFields_of_nodup hdistinct]
      refine ⟨fun f => ?_, fun e => iff_of_false nofun fun ⟨x, hx, _⟩ => ?_⟩
      · rw [and_iff_right hdistinct, Except.ok.injEq, eq_comm, eq_iff_parts_eq]
      · rw [repeated?_eq_some_iff.mpr ⟨x, hx, rfl⟩] at hrepeated
        contradiction
  | some r =>
      have hshared : ¬ (fields.map (·.reference)).Nodup := by
        rw [← repeated?_eq_none_iff, hrepeated]
        exact nofun
      rw [withFields_of_repeated? hrepeated]
      refine ⟨fun f => iff_of_false nofun fun h => hshared h.1, fun e => ⟨fun h => ?_, ?_⟩⟩
      · obtain ⟨x, hx, rfl⟩ := repeated?_eq_some_iff.mp hrepeated
        exact ⟨x, hx, (Except.error.inj h).symm⟩
      · rintro ⟨x, hx, rfl⟩
        have hx' := repeated?_eq_some_iff.mpr ⟨x, hx, rfl⟩
        obtain rfl := Option.some.inj (hrepeated.symm.trans hx')
        rfl

/-! ### One field replaced -/

theorem contains_iff_mem_references :
    f.contains x.reference = true ↔ x.reference ∈ f.fields.map (·.reference) := by
  rw [contains_iff, List.mem_map]

theorem setField_eq_error_iff {e : FormError} : f.setField x = .error e ↔
    x.reference ∉ f.fields.map (·.reference) ∧ e = .unknownFields [x.reference.chars] := by
  rw [← contains_iff_mem_references, setField]
  split
  · rename_i hdeclared
    exact iff_of_false nofun fun h => h.1 hdeclared
  · rename_i hdeclared
    rw [and_iff_right hdeclared, Except.error.injEq]
    exact eq_comm

/-- Only the field with the reference gives way, since there is just one. -/
theorem replaced_of_split {before after : List Field} {y : Field}
    (hfields : f.fields = before ++ y :: after) (hy : y.reference = x.reference) :
    f.replaced x = before ++ x :: after := by
  have hdistinct := f.distinct
  rw [hfields, List.map_append, List.map_cons, hy, List.nodup_middle, List.nodup_cons,
    ← List.map_append] at hdistinct
  have hkept : ∀ z ∈ before ++ after, (if z.reference = x.reference then x else z) = z := by
    intro z hz
    refine if_neg fun heq => hdistinct.1 ?_
    rw [← heq]
    exact List.mem_map_of_mem hz
  rw [List.forall_mem_append] at hkept
  rw [replaced, hfields, List.map_append, List.map_cons, if_pos hy,
    List.map_congr_left hkept.1, List.map_congr_left hkept.2, List.map_id', List.map_id']

theorem setField_eq_ok_iff : f.setField x = .ok g ↔ ∃ before y after,
    f.fields = before ++ y :: after ∧ y.reference = x.reference ∧
      g.fields = before ++ x :: after ∧ g.name = f.name ∧ g.problems = f.problems := by
  constructor
  · intro h
    rw [setField] at h
    split at h
    · rename_i hdeclared
      obtain ⟨y, hmem, hy⟩ := contains_iff.mp hdeclared
      obtain ⟨before, after, hfields⟩ := List.append_of_mem hmem
      cases h
      exact ⟨before, y, after, hfields, hy, replaced_of_split hfields hy, rfl, rfl⟩
    · contradiction
  · rintro ⟨before, y, after, hfields, hy, hreplaced, hname, hproblems⟩
    have hdeclared : f.contains x.reference = true := by
      refine contains_iff.mpr ⟨y, ?_, hy⟩
      rw [hfields]
      exact List.mem_append_right before List.mem_cons_self
    rw [setField, if_pos hdeclared, Except.ok.injEq, eq_iff_parts_eq]
    exact ⟨hname.symm, (replaced_of_split hfields hy).trans hreplaced.symm, hproblems.symm⟩

theorem references_of_setField (h : f.setField x = .ok g) :
    g.fields.map (·.reference) = f.fields.map (·.reference) := by
  obtain ⟨before, y, after, hfields, hy, hreplaced, -⟩ := setField_eq_ok_iff.mp h
  rw [hfields, hreplaced, List.map_append, List.map_append, List.map_cons, List.map_cons, hy]

/-! ### Forms from JSON -/

/-- Name, fields and problems are each decoded from their part of the value. Problems may be
left out. -/
inductive Reads : Json → FormName → List Field → List Problem → Prop
  | object {members : List (Text × Json)} {name : FormName} {fields : List Field}
      {problems : Option (List Problem)}
      (hname : Json.member members "name" FormName.decode = .ok (some name))
      (hfields : Json.member members "fields" (Json.listOf Field.decode) = .ok (some fields))
      (hproblems : Json.member members "errors" (Json.listOf Problem.decode) = .ok problems) :
      Reads (.object members) name fields (problems.getD [])
  | array {nameItem fieldsItem : Json} {name : FormName} {fields : List Field}
      (hname : FormName.decode nameItem = .ok name)
      (hfields : Json.listOf Field.decode fieldsItem = .ok fields) :
      Reads (.array [nameItem, fieldsItem]) name fields []
  | arrayWithProblems {nameItem fieldsItem problemsItem : Json} {name : FormName}
      {fields : List Field} {problems : List Problem}
      (hname : FormName.decode nameItem = .ok name)
      (hfields : Json.listOf Field.decode fieldsItem = .ok fields)
      (hproblems : Json.listOf Problem.decode problemsItem = .ok problems) :
      Reads (.array [nameItem, fieldsItem, problemsItem]) name fields problems

theorem Reads.decode_eq {j : Json} (h : Reads j name fields problems) :
    decode j = (withFields name fields problems).mapError .rejected := by
  cases h with
  | object hname hfields hproblems =>
      rw [decode, hproblems, hfields, hname]
      rfl
  | @array nameItem fieldsItem _ _ hname hfields =>
      have hparts : decode (.array [nameItem, fieldsItem]) = (do
        let name ← FormName.decode nameItem
        let fields ← Json.listOf Field.decode fieldsItem
        assemble name fields []) := rfl
      rw [hparts, hname, hfields]
      rfl
  | @arrayWithProblems nameItem fieldsItem problemsItem _ _ _ hname hfields hproblems =>
      have hparts : decode (.array [nameItem, fieldsItem, problemsItem]) = (do
        let name ← FormName.decode nameItem
        let fields ← Json.listOf Field.decode fieldsItem
        let problems ← Json.listOf Problem.decode problemsItem
        assemble name fields problems) := rfl
      rw [hparts, hname, hfields, hproblems]
      rfl

theorem parts_of_assemble (h : assemble name fields problems = .ok f) :
    f.name = name ∧ f.fields = fields ∧ f.problems = problems :=
  (((vetted_withFields name fields problems).ok_iff f).mp (ok_mapError_iff.mp h)).2

theorem reads_of_decode {j : Json} (h : decode j = .ok f) : Reads j f.name f.fields f.problems := by
  match j with
  | .object members =>
      obtain ⟨problems, hproblems, h⟩ := ok_bind_iff.mp h
      obtain ⟨fields, hfields, h⟩ := ok_bind_iff.mp h
      obtain ⟨name, hname, h⟩ := ok_bind_iff.mp h
      obtain ⟨name', hrequired, h⟩ := ok_bind_iff.mp h
      obtain ⟨fields', hrequired', h⟩ := ok_bind_iff.mp h
      rw [Json.ok_require_iff] at hrequired hrequired'
      rw [hrequired] at hname
      rw [hrequired'] at hfields
      obtain ⟨rfl, rfl, hassembled⟩ := parts_of_assemble h
      rw [hassembled]
      exact .object hname hfields hproblems
  | .array [nameItem, fieldsItem] =>
      obtain ⟨name, hname, h⟩ := ok_bind_iff.mp h
      obtain ⟨fields, hfields, h⟩ := ok_bind_iff.mp h
      obtain ⟨rfl, rfl, hproblems⟩ := parts_of_assemble h
      rw [hproblems]
      exact .array hname hfields
  | .array [nameItem, fieldsItem, problemsItem] =>
      obtain ⟨name, hname, h⟩ := ok_bind_iff.mp h
      obtain ⟨fields, hfields, h⟩ := ok_bind_iff.mp h
      obtain ⟨problems, hproblems, h⟩ := ok_bind_iff.mp h
      obtain ⟨rfl, rfl, rfl⟩ := parts_of_assemble h
      exact .arrayWithProblems hname hfields hproblems
  | .array [] => contradiction
  | .array [nameItem] =>
      obtain ⟨name, -, h⟩ := ok_bind_iff.mp h
      contradiction
  | .array (_ :: _ :: _ :: _ :: _) =>
      obtain ⟨name, -, h⟩ := ok_bind_iff.mp h
      obtain ⟨fields, -, h⟩ := ok_bind_iff.mp h
      obtain ⟨problems, -, h⟩ := ok_bind_iff.mp h
      contradiction
  | .null | .bool _ | .integer _ | .decimal _ _ | .string _ => contradiction

end Form

/-! ### Loading and submitting -/

/-- The values of the fields are loaded one after the other, which leads from one state to
another. -/
inductive FormContext.Loads {σ τ : Type} (ctx : FormContext σ τ) : σ → List Field → σ → Prop
  | nil (s : σ) : Loads ctx s [] s
  | cons {s s₁ s₂ : σ} {x : Field} {value : Option Json} {fields : List Field}
      (hfirst : (ctx.load x).outcome s = (.ok value, s₁)) (hrest : Loads ctx s₁ fields s₂) :
      Loads ctx s (x :: fields) s₂

namespace FormHandler

open Access

variable {σ τ : Type} {ctx : FormContext σ τ} {s s' : σ} {fields : List Field} {f g : Form}
  {x y : Field} {e : FormError}

theorem loaded_eq_error_iff :
    (loaded ctx x).outcome s = (.error e, s') ↔ (ctx.load x).outcome s = (.error e, s') := by
  rw [loaded, outcome_bind_eq_error_iff, or_iff_left]
  rintro ⟨value, s₁, -, h⟩
  cases value <;> cases h

theorem mapM_loaded_eq_error_iff : (fields.mapM (loaded ctx)).outcome s = (.error e, s') ↔
    ∃ before x after s₁, fields = before ++ x :: after ∧ ctx.Loads s before s₁ ∧
      (ctx.load x).outcome s₁ = (.error e, s') := by
  induction fields generalizing s with
  | nil =>
      refine iff_of_false (fun h => by cases h) ?_
      rintro ⟨before, x, after, s₁, hnil, -⟩
      simp at hnil
  | cons x fields ih =>
      rw [List.mapM_cons, outcome_bind_eq_error_iff, loaded_eq_error_iff]
      constructor
      · rintro (hfirst | ⟨y, s₁, hfirst, hrest⟩)
        · exact ⟨[], x, fields, s, rfl, .nil s, hfirst⟩
        · obtain ⟨value, hload, -⟩ := loaded_eq_ok_iff.mp hfirst
          rcases outcome_bind_eq_error_iff.mp hrest with hrest | ⟨ys, s₂, -, hpure⟩
          · obtain ⟨before, x', after, s₂, rfl, hloads, hfailed⟩ := ih.mp hrest
            exact ⟨x :: before, x', after, s₂, rfl, .cons hload hloads, hfailed⟩
          · cases hpure
      · rintro ⟨before, x', after, s₂, hsplit, hloads, hfailed⟩
        cases hloads with
        | nil =>
            obtain ⟨rfl, rfl⟩ := List.cons.inj hsplit
            exact .inl hfailed
        | cons hload hloads =>
            obtain ⟨rfl, rfl⟩ := List.cons.inj hsplit
            refine .inr ⟨_, _, loaded_eq_ok_iff.mpr ⟨_, hload, rfl⟩, ?_⟩
            refine outcome_bind_eq_error_iff.mpr (.inl (ih.mpr ?_))
            exact ⟨_, x', after, s₂, rfl, hloads, hfailed⟩

theorem references_of_mapM_loaded {ys : List Field}
    (h : (fields.mapM (loaded ctx)).outcome s = (.ok ys, s')) :
    ys.map (·.reference) = fields.map (·.reference) := by
  refine Access.map_eq_of_mapM h fun x s y s' hloaded => ?_
  obtain ⟨value, -, rfl⟩ := loaded_eq_ok_iff.mp hloaded
  exact x.filled_reference value

theorem references_of_prepareBasic (h : (prepareBasic ctx f).outcome s = (.ok g, s')) :
    g.fields.map (·.reference) = f.fields.map (·.reference) := by
  obtain ⟨ys, s₁, hys, hset⟩ := outcome_bind_eq_ok_iff.mp h
  obtain ⟨hset, -⟩ := Prod.mk.inj hset
  obtain ⟨-, -, rfl, -⟩ := ((Form.vetted_withFields f.name ys f.problems).ok_iff g).mp hset
  exact references_of_mapM_loaded hys

/-- The loaded fields always make a form again, so nothing but loading can fail. -/
theorem prepareBasic_eq_error_iff : (prepareBasic ctx f).outcome s = (.error e, s') ↔
    ∃ before x after s₁, f.fields = before ++ x :: after ∧ ctx.Loads s before s₁ ∧
      (ctx.load x).outcome s₁ = (.error e, s') := by
  rw [prepareBasic, outcome_bind_eq_error_iff, mapM_loaded_eq_error_iff, or_iff_left]
  rintro ⟨ys, s₁, hys, hset⟩
  have hdistinct : (ys.map (·.reference)).Nodup := by
    rw [references_of_mapM_loaded hys]
    exact f.distinct
  have hok : f.setFields ys = .ok ⟨f.name, ys, f.problems, hdistinct⟩ :=
    Form.withFields_of_nodup hdistinct
  rw [hok] at hset
  cases hset

theorem fields_of_submitBasic (h : (submitBasic ctx f).outcome s = (.ok g, s')) :
    g.fields = f.fields := by
  obtain ⟨problems, s₁, -, h⟩ := outcome_bind_eq_ok_iff.mp h
  match problems with
  | [] =>
      obtain ⟨-, s₂, -, h⟩ := outcome_bind_eq_ok_iff.mp h
      cases h
      rfl
  | _ :: _ =>
      cases h
      rfl

end FormHandler

namespace Form

/-! ### Whatever is done to a form -/

/-- What is done with forms leads to the form, which was last given fields with these
references. -/
inductive Obtained : List Reference → Form → Prop
  | ofFields {name : FormName} {fields : List Field} {f : Form}
      (h : ofFields name fields = .ok f) : Obtained (fields.map (·.reference)) f
  | setFields {rs : List Reference} {f g : Form} {fields : List Field} (hf : Obtained rs f)
      (h : f.setFields fields = .ok g) : Obtained (fields.map (·.reference)) g
  | setField {rs : List Reference} {f g : Form} {x : Field} (hf : Obtained rs f)
      (h : f.setField x = .ok g) : Obtained rs g
  | setProblems {rs : List Reference} {f : Form} (hf : Obtained rs f) (problems : List Problem) :
      Obtained rs (f.setProblems problems)
  | decode {j : Json} {name : FormName} {fields : List Field} {problems : List Problem} {f : Form}
      (hj : Reads j name fields problems) (h : decode j = .ok f) :
      Obtained (fields.map (·.reference)) f
  | prepare {σ τ : Type} {ctx : FormContext σ τ} {s s' : σ} {rs : List Reference} {f g : Form}
      (hf : Obtained rs f) (h : (FormHandler.basic.prepare ctx f).outcome s = (.ok g, s')) :
      Obtained rs g
  | submit {σ τ : Type} {ctx : FormContext σ τ} {s s' : σ} {rs : List Reference} {f g : Form}
      (hf : Obtained rs f) (h : (FormHandler.basic.submit ctx f).outcome s = (.ok g, s')) :
      Obtained rs g

/-- The references are those that were given last, and they passed the check then. -/
theorem Obtained.references {rs : List Reference} (h : Obtained rs f) :
    rs.Nodup ∧ f.fields.map (·.reference) = rs := by
  induction h with
  | ofFields h =>
      obtain ⟨hdistinct, -, rfl, -⟩ := ((vetted_withFields _ _ _).ok_iff _).mp h
      exact ⟨hdistinct, rfl⟩
  | setFields _ h =>
      obtain ⟨hdistinct, -, rfl, -⟩ := ((vetted_withFields _ _ _).ok_iff _).mp h
      exact ⟨hdistinct, rfl⟩
  | setField _ h ih => exact ⟨ih.1, (references_of_setField h).trans ih.2⟩
  | setProblems _ problems ih => exact ih
  | decode hj h =>
      rw [hj.decode_eq] at h
      obtain ⟨hdistinct, -, rfl, -⟩ :=
        ((vetted_withFields _ _ _).ok_iff _).mp (ok_mapError_iff.mp h)
      exact ⟨hdistinct, rfl⟩
  | prepare _ h ih => exact ⟨ih.1, (FormHandler.references_of_prepareBasic h).trans ih.2⟩
  | submit _ h ih =>
      refine ⟨ih.1, ?_⟩
      rw [FormHandler.fields_of_submitBasic h]
      exact ih.2

/-- Any fields with different references can be given to a form, so these are all the references
that forms are obtained with. -/
theorem obtained_iff {rs : List Reference} :
    Obtained rs f ↔ rs.Nodup ∧ f.fields.map (·.reference) = rs := by
  refine ⟨Obtained.references, ?_⟩
  rintro ⟨hdistinct, rfl⟩
  have hfields : ofFields f.name f.fields = .ok ⟨f.name, f.fields, [], hdistinct⟩ :=
    withFields_of_nodup hdistinct
  exact (Obtained.ofFields hfields).setProblems f.problems

/-- However a form was obtained, its references are different: they are those of the fields it
was last given as a whole, and these are accepted just if their references are different and
else refused for the first field that repeats one. A field is replaced just if its reference
is declared, and then nothing else changes. Preparing a form fails only where loading a value
does. -/
theorem references_stay_distinct {σ τ : Type} (ctx : FormContext σ τ) (s : σ) (f : Form) (x : Field)
    (name : FormName) (fields : List Field) (problems : List Problem) (j : Json) :
    (∀ rs, Obtained rs f ↔ rs.Nodup ∧ f.fields.map (·.reference) = rs) ∧
    Vetted name fields [] (ofFields name fields) ∧
    Vetted f.name fields f.problems (f.setFields fields) ∧
    (Reads j name fields problems → ∃ result, Vetted name fields problems result ∧
      decode j = result.mapError .rejected) ∧
    (∀ g, decode j = .ok g → Reads j g.name g.fields g.problems) ∧
    (∀ e, f.setField x = .error e ↔
      x.reference ∉ f.fields.map (·.reference) ∧ e = .unknownFields [x.reference.chars]) ∧
    (∀ g, f.setField x = .ok g ↔ ∃ before y after, f.fields = before ++ y :: after ∧
      y.reference = x.reference ∧ g.fields = before ++ x :: after ∧ g.name = f.name ∧
      g.problems = f.problems) ∧
    ∀ e s', (FormHandler.basic.prepare ctx f).outcome s = (.error e, s') ↔
      ∃ before y after s₁, f.fields = before ++ y :: after ∧ ctx.Loads s before s₁ ∧
        (ctx.load y).outcome s₁ = (.error e, s') :=
  ⟨fun _ => obtained_iff, vetted_withFields name fields [],
    vetted_withFields f.name fields f.problems,
    fun h => ⟨_, vetted_withFields name fields problems, h.decode_eq⟩,
    fun _ h => reads_of_decode h, fun _ => setField_eq_error_iff, fun _ => setField_eq_ok_iff,
    fun _ _ => FormHandler.prepareBasic_eq_error_iff⟩

end Form

end PluginForms
