import PluginForms.Proofs.Form.Validation
import PluginForms.Proofs.Selector.Evaluation

/-!
Validators that hand on to one another. What is meant is a context in which each check looks a
validator up and runs it in that same context, however deep it hands on. `ofProvider` goes down a
number of levels only and leaves it open what is answered behind the last of them. An answer that
does not depend on this is settled: it stays the same for any more levels, and it is the answer of
every context that is meant. If what is handed on always has a lower rank, there is one such
context, and enough levels give its answers.
-/

namespace PluginForms

variable {ε : Type} {p : ValidatorProvider ε} {r : Reference}
  {beyond beyond' : Check (ValidatorStep ε)} {ctx ctx' : ValidatorContext (ValidatorStep ε)}
  {depth depth' : Nat} {s : Selector .validator} {value : Option Json}

namespace ValidatorContext

/-- Each check looks a validator up in the provider and runs it in the context itself. -/
structure Backed (p : ValidatorProvider ε) (r : Reference)
    (ctx : ValidatorContext (ValidatorStep ε)) : Prop where
  reference : ctx.reference = r
  check : ∀ s value, ctx.check s value = consult p ctx s value

/-- Whatever is answered behind the last level, the answer to the check is the same. -/
def Settled (p : ValidatorProvider ε) (r : Reference) (depth : Nat) (s : Selector .validator)
    (value : Option Json) : Prop :=
  ∀ beyond beyond', (ofProvider beyond p r depth).check s value =
    (ofProvider beyond' p r depth).check s value

/-- Validators hand on only what has a lower rank than what they were asked for, so nothing else
that a context answers makes a difference to them. -/
def Ranked (p : ValidatorProvider ε) (rank : Selector .validator → Option Json → Nat) : Prop :=
  ∀ s value validator, (p.select s).result = .ok validator →
    ∀ ctx ctx', ctx.reference = ctx'.reference →
      (∀ s' value', rank s' value' < rank s value →
        ctx.check s' value' = ctx'.check s' value') →
      validator value ctx = validator value ctx'

/-! ### Levels -/

theorem ofProvider_reference (beyond : Check (ValidatorStep ε)) (depth : Nat) :
    (ofProvider beyond p r depth).reference = r := by
  cases depth <;> rfl

/-- Behind the last level another context may begin. -/
theorem ofProvider_add (beyond : Check (ValidatorStep ε)) (depth more : Nat) :
    ofProvider (ofProvider beyond p r more).check p r depth =
      ofProvider beyond p r (more + depth) := by
  induction depth with
  | zero => cases more <;> rfl
  | succ depth ih => rw [ofProvider, ih, ← Nat.add_assoc, ofProvider]

/-- A context that is meant may begin anywhere, also behind the last level. -/
theorem Backed.ofProvider_eq (h : Backed p r ctx) (depth : Nat) :
    ofProvider ctx.check p r depth = ctx := by
  have heta : ctx = ⟨r, ctx.check⟩ := by rw [← h.reference]
  induction depth with
  | zero => exact heta.symm
  | succ depth ih =>
      have hcheck : consult p ctx = ctx.check := funext₂ fun s value => (h.check s value).symm
      rw [ofProvider, ih, hcheck]
      exact heta.symm

/-- The record of a check begins with the look-up, so nothing was looked up where there is no
record. -/
theorem steps_consult_ne_nil : (consult p ctx s value).steps ≠ [] := by
  rw [consult]
  split <;> exact List.cons_ne_nil _ _

theorem consult_congr (h : ∀ validator, (p.select s).result = .ok validator →
    validator value ctx = validator value ctx') :
    consult p ctx s value = consult p ctx' s value := by
  rw [consult, consult]
  cases hfound : (p.select s).result with
  | error e => rfl
  | ok validator =>
      dsimp only
      rw [h validator hfound]

/-! ### Settled answers -/

/-- More levels do not change a settled answer. -/
theorem Settled.check_eq (h : Settled p r depth s value) (hle : depth ≤ depth') :
    (ofProvider beyond p r depth').check s value =
      (ofProvider beyond' p r depth).check s value := by
  obtain ⟨more, rfl⟩ := Nat.exists_eq_add_of_le' hle
  rw [← ofProvider_add]
  exact h _ _

theorem Settled.mono (h : Settled p r depth s value) (hle : depth ≤ depth') :
    Settled p r depth' s value := by
  intro beyond beyond'
  have hfirst (beyond : Check (ValidatorStep ε)) : (ofProvider beyond p r depth').check s value =
      (ofProvider beyond p r depth).check s value := h.check_eq hle
  rw [hfirst, hfirst]
  exact h beyond beyond'

/-- A settled answer is what the check is to do: the validator is looked up and runs in the same
context. -/
theorem Settled.check_eq_consult (h : Settled p r depth s value) :
    (ofProvider beyond p r depth).check s value =
      consult p (ofProvider beyond p r depth) s value :=
  (h.check_eq (Nat.le_succ depth)).symm

theorem Settled.eq_of_backed (h : Settled p r depth s value) (hctx : Backed p r ctx) :
    (ofProvider beyond p r depth).check s value = ctx.check s value := by
  have hlast := h beyond ctx.check
  rwa [hctx.ofProvider_eq] at hlast

/-! ### Ranks -/

variable {rank : Selector .validator → Option Json → Nat}

theorem Ranked.settled (h : Ranked p rank) (hdepth : rank s value < depth) :
    Settled p r depth s value := by
  intro beyond beyond'
  induction depth generalizing s value with
  | zero => contradiction
  | succ depth ih =>
      refine consult_congr fun validator hvalidator => h s value validator hvalidator _ _ ?_ ?_
      · rw [ofProvider_reference, ofProvider_reference]
      · intro s' value' hrank
        exact ih (Nat.lt_of_lt_of_le hrank (Nat.le_of_lt_succ hdepth))

/-- The context that goes down as many levels as it takes, for each check. -/
def ofRank (beyond : Check (ValidatorStep ε)) (p : ValidatorProvider ε) (r : Reference)
    (rank : Selector .validator → Option Json → Nat) : ValidatorContext (ValidatorStep ε) :=
  ⟨r, fun s value => (ofProvider beyond p r (rank s value + 1)).check s value⟩

theorem Ranked.backed_ofRank (h : Ranked p rank) : Backed p r (ofRank beyond p r rank) := by
  refine ⟨rfl, fun s value => ?_⟩
  -- what the validator hands on is answered a level further down, or with fewer levels
  refine consult_congr fun validator hvalidator => h s value validator hvalidator _ _ ?_ ?_
  · exact ofProvider_reference beyond _
  · intro s' value' hrank
    exact (h.settled (Nat.lt_succ_self _)).check_eq hrank

/-- If validators hand on only what has a lower rank, there is one context in which each check
looks a validator up and runs it in the context itself. Levels in a number above the rank of a
check give its answer, so the end of the levels is not noticed. -/
theorem exists_backed_of_ranked (h : Ranked p rank) (r : Reference) :
    ∃ ctx, Backed p r ctx ∧ (∀ ctx', Backed p r ctx' → ctx' = ctx) ∧
      ∀ beyond depth s value, rank s value < depth →
        (ofProvider beyond p r depth).check s value = ctx.check s value := by
  let ctx := ofRank (fun s _ => .fail (.unknownName s.name)) p r rank
  have hctx : Backed p r ctx := h.backed_ofRank
  have hanswer (ctx' : ValidatorContext (ValidatorStep ε)) (hctx' : Backed p r ctx')
      (s : Selector .validator) (value : Option Json) :
      ctx.check s value = ctx'.check s value :=
    (h.settled (Nat.lt_succ_self _)).eq_of_backed hctx'
  refine ⟨ctx, hctx, fun ctx' hctx' => ?_, fun beyond depth s value hdepth => ?_⟩
  · have hcheck : ctx'.check = ctx.check := funext₂ fun s value => (hanswer ctx' hctx' s value).symm
    rw [← hctx'.ofProvider_eq 0, ← hctx.ofProvider_eq 0, hcheck]
  · exact (h.settled hdepth).eq_of_backed hctx

namespace DelegationSample

def stamp : Name .validator := ⟨"stamp".toList, by decide⟩

def envelope : Name .validator := ⟨"envelope".toList, by decide⟩

/-- `envelope` hands every value on to `stamp`, which wants one. -/
def resolver : Resolver .validator Nat (Validator (ValidatorStep Nat)) := fun n _ =>
  if n = stamp then
    pure fun value ctx => ⟨[], if value.isSome then [] else [⟨ctx.reference, "empty".toList, none⟩]⟩
  else if n = envelope then
    pure fun value ctx =>
      let answer := ctx.check ⟨stamp, [], by decide⟩ value
      ⟨answer.steps, answer.result.toOption.getD []⟩
  else .fail (.unknownName n)

def relays : ValidatorProvider Nat := .ofResolver .empty resolver

def relayRank (s : Selector .validator) (_ : Option Json) : Nat := if s.name = stamp then 0 else 1

end DelegationSample

open DelegationSample in
/-- What `envelope` hands on is of lower rank. -/
theorem ranked_relays : Ranked relays relayRank := by
  intro s value validator h ctx ctx' hreference hcheck
  obtain ⟨steps, hevaluated⟩ : ∃ steps, s.evaluate resolver = ⟨steps, .ok validator⟩ :=
    ⟨_, congrArg (Traced.mk _) h⟩
  rw [Selector.evaluate, Traced.ok_ofExcept_bind_iff] at hevaluated
  obtain ⟨_, -, hevaluated⟩ := hevaluated
  obtain ⟨_, values, _, -, hresolved, -⟩ := Traced.ok_bind_iff.mp hevaluated
  dsimp only [resolver] at hresolved
  split at hresolved
  · cases hresolved
    dsimp only
    rw [hreference]
  · rename_i hstamp
    split at hresolved
    · cases hresolved
      dsimp only
      rw [hcheck ⟨stamp, [], _⟩ value (by simp [relayRank, hstamp])]
    · cases hresolved

open DelegationSample in
/-- Two levels are as many as it takes: both validators are looked up and run. -/
example (beyond : Check (ValidatorStep Nat)) (r : Reference) :
    (ofProvider beyond relays r 2).check ⟨envelope, [], by decide⟩ none =
      ⟨[.lookUp ⟨envelope, [], by decide⟩, .run ⟨envelope, [], by decide⟩ none,
        .lookUp ⟨stamp, [], by decide⟩, .run ⟨stamp, [], by decide⟩ none],
        .ok [⟨r, "empty".toList, none⟩]⟩ := rfl

end ValidatorContext

namespace FormHandler

open ValidatorContext

variable {σ τ : Type} {fields : List Field}

theorem mem_of_mem_supplied {declared : Form} {firsts : List Field} {x : Field}
    (h : supplied declared fields = .ok firsts) (hx : x ∈ firsts) : x ∈ fields := by
  rw [supplied] at h
  split at h
  · obtain rfl := Except.ok.inj h
    obtain ⟨d, -, hd⟩ := List.mem_filterMap.mp hx
    exact List.mem_of_find?_eq_some hd
  · contradiction

/-- A validation depends on the answers about the supplied fields alone. -/
theorem validate_congr {ctx ctx' : FormContext σ τ} (hform : ctx'.form = ctx.form)
    (h : ∀ x ∈ fields, ∀ s, x.validator = some s →
      (ctx'.validation x.reference).check s x.value =
        (ctx.validation x.reference).check s x.value) :
    basic.validate ctx' fields = basic.validate ctx fields := by
  cases hsupplied : supplied ctx.form fields with
  | error e => rw [validate_of_refused hsupplied, validate_of_refused (hform ▸ hsupplied)]
  | ok firsts =>
      have hproblems : firsts.map (fieldProblems ctx') = firsts.map (fieldProblems ctx) := by
        refine List.map_congr_left fun x hx => ?_
        rw [fieldProblems, fieldProblems]
        cases hs : x.validator with
        | none => rfl
        | some s =>
            dsimp only
            rw [h x (mem_of_mem_supplied hsupplied hx) s hs]
      rw [validate_of_supplied hsupplied, validate_of_supplied (hform ▸ hsupplied), hproblems]

theorem mem_firsts_iff {form : Form} (h : ∀ r, ¬ form.Undeclared fields r) {x : Field} :
    x ∈ form.fields.filterMap (fun d => fields.find? (·.reference == d.reference)) ↔
      x.IsFirst fields := by
  refine ⟨isFirst_of_supplied, fun hx => ?_⟩
  have hmem : x ∈ fields := by
    obtain ⟨before, after, rfl, -⟩ := hx
    exact List.mem_append_right before List.mem_cons_self
  have hdeclared : form.contains x.reference = true :=
    (Bool.eq_false_or_eq_true _).resolve_right fun hr => h x.reference ⟨hr, x, hmem, rfl⟩
  obtain ⟨d, hd, hreference⟩ := Form.contains_iff.mp hdeclared
  refine List.mem_filterMap.mpr ⟨d, hd, ?_⟩
  rw [hreference]
  exact Field.find?_reference_eq_some_iff.mpr ⟨rfl, hx⟩

theorem steps_fieldProblems_eq_nil_iff {ctx : FormContext σ (ValidatorStep ε)}
    (hbacked : ∀ r, Backed p r (ctx.validation r)) (x : Field) :
    (fieldProblems ctx x).steps = [] ↔ x.validator = none := by
  rw [fieldProblems]
  cases hs : x.validator with
  | none => exact iff_of_true rfl rfl
  | some s =>
      have hsome : ((ctx.validation x.reference).check s x.value).steps ≠ [] := by
        rw [(hbacked x.reference).check]
        exact steps_consult_ne_nil
      dsimp only
      refine iff_of_false (fun hnil => hsome ?_) (Option.some_ne_none s)
      split at hnil <;> exact hnil

/-- Validators from a provider are looked up for the first field of each reference that has one,
and for nothing else: a validation without a step is one that refuses its fields or has no
validator to ask. -/
theorem steps_validate_eq_nil_iff {ctx : FormContext σ (ValidatorStep ε)}
    (hbacked : ∀ r, Backed p r (ctx.validation r)) (fields : List Field) :
    (basic.validate ctx fields).steps = [] ↔
      (∃ r, ctx.form.Undeclared fields r) ∨ ∀ x : Field, x.IsFirst fields → x.validator = none := by
  by_cases hundeclared : ∃ r, ctx.form.Undeclared fields r
  · obtain ⟨r, hr⟩ := hundeclared
    obtain ⟨unknown, hrefused, -⟩ := validate_of_undeclared hr
    exact iff_of_true (by rw [hrefused]) (.inl ⟨r, hr⟩)
  · have hdeclared := not_exists.mp hundeclared
    rw [validate_of_supplied (supplied_of_declared hdeclared), or_iff_right hundeclared]
    simp only [List.flatMap_eq_nil_iff, List.forall_mem_map, mem_firsts_iff hdeclared,
      steps_fieldProblems_eq_nil_iff hbacked]

/-- If the answers about the supplied fields are settled, a validation by so many levels has the
problems and the steps of one by contexts without a last level. -/
theorem validate_of_settled {ctx : FormContext σ (ValidatorStep ε)}
    (hbacked : ∀ r, Backed p r (ctx.validation r))
    (hsettled : ∀ x ∈ fields, ∀ s, x.validator = some s → Settled p x.reference depth s x.value) :
    basic.validate { ctx with validation := FormContext.validationBy beyond p depth } fields =
      basic.validate ctx fields :=
  validate_congr rfl fun x hx s hs => (hsettled x hx s hs).eq_of_backed (hbacked x.reference)

end FormHandler

end PluginForms
