import PluginForms.Proofs.Form.Store

/-!
Sessions of the basic form handler: any requests, one after the other, to one context
whose store was empty at first. A request changes the store only if it is a submission
without problems, and then the store has just what was submitted; so whatever is
stored belongs to a field that the form of the context declares.
-/

namespace PluginForms

namespace FormHandler

variable {σ τ : Type}

/-- What a form handler can be asked for. -/
inductive Request
  | prepare (f : Form)
  | validate (fields : List Field)
  | submit (f : Form)

inductive Response
  | form (result : Except FormError Form)
  | problems (result : Except FormError (List Problem))

/-- The response to a request in the state `s`, and the state after it. -/
def serve (h : FormHandler σ τ) (ctx : FormContext σ τ) (s : σ) : Request → Response × σ
  | .prepare f => ((h.prepare ctx f).outcome s).map .form id
  | .validate fields => (.problems (h.validate ctx fields).value, s)
  | .submit f => ((h.submit ctx f).outcome s).map .form id

/-- The state after all the requests. -/
def afterAll (h : FormHandler σ τ) (ctx : FormContext σ τ) (s : σ) (requests : List Request) : σ :=
  requests.foldl (fun s q => (h.serve ctx s q).2) s

variable {form f g : Form} {validation : Reference → ValidatorContext τ} {s : Store}

/-! ### One request -/

theorem serve_prepare :
    basic.serve (.stored form validation) s (.prepare f) =
      (.form (f.setFields (f.fields.map s.fill)), s) := by
  rw [serve, basic, outcome_prepareBasic]
  rfl

/-- What a submission does, by what the validation of its fields says. -/
theorem serve_submit :
    basic.serve (.stored form validation) s (.submit f) =
      match (basic.validate (.stored form validation) f.fields).value with
      | .ok [] => (.form (.ok (f.setProblems [])), s.putAll f.fields)
      | .ok problems => (.form (.ok (f.setProblems problems)), s)
      | .error e => (.form (.error e), s) := by
  have hserve : basic.serve (.stored form validation) s (.submit f) =
      ((submitBasic (.stored form validation) f).outcome s).map .form id := rfl
  have hvalidate : (basic.validate (.stored form validation) f.fields).value =
      (validateBasic (.stored form validation) f.fields).value := rfl
  rw [hserve, outcome_submitBasic, hvalidate]
  cases (validateBasic (.stored form validation) f.fields).value with
  | error e => rfl
  | ok problems => cases problems <;> rfl

/-- A submission that succeeds returns the form with the problems that were found. -/
theorem validated_of_submit
    (h : (basic.serve (.stored form validation) s (.submit f)).1 = .form (.ok g)) :
    ∃ problems, (basic.validate (.stored form validation) f.fields).value = .ok problems ∧
      g = f.setProblems problems := by
  rw [serve_submit] at h
  cases hvalidate : (basic.validate (.stored form validation) f.fields).value with
  | error e =>
      rw [hvalidate] at h
      cases h
  | ok problems =>
      rw [hvalidate] at h
      refine ⟨problems, rfl, ?_⟩
      cases problems with
      | nil =>
          cases h
          rfl
      | cons p problems =>
          cases h
          rfl

/-- Unless the fields are valid, nothing is stored. -/
theorem store_of_submit (h : (basic.validate (.stored form validation) f.fields).value ≠ .ok []) :
    (basic.serve (.stored form validation) s (.submit f)).2 = s := by
  rw [serve_submit]
  split
  · contradiction
  · rfl
  · rfl

theorem submit_of_valid (h : (basic.validate (.stored form validation) f.fields).value = .ok []) :
    basic.serve (.stored form validation) s (.submit f) =
      (.form (.ok (f.setProblems [])), s.putAll f.fields) := by
  rw [serve_submit, h]

/-! ### The store of a session -/

/-- Everything that is stored is stored for a field of the form. -/
def Covers (form : Form) (s : Store) : Prop :=
  ∀ r, s r ≠ none → form.contains r = true

theorem covers_serve (hs : Covers form s) (q : Request) :
    Covers form (basic.serve (.stored form validation) s q).2 := by
  cases q with
  | prepare f =>
      rw [serve_prepare]
      exact hs
  | validate fields => exact hs
  | submit f =>
      by_cases hvalid : (basic.validate (.stored form validation) f.fields).value = .ok []
      · rw [submit_of_valid hvalid]
        intro r (hr : s.putAll f.fields r ≠ none)
        by_cases hsubmitted : ∃ x ∈ f.fields, x.reference = r
        · obtain ⟨x, hx, rfl⟩ := hsubmitted
          exact declared_of_validateBasic hvalid x hx
        · simp only [not_exists, not_and] at hsubmitted
          rw [Store.putAll_of_forall_ne hsubmitted] at hr
          exact hs r hr
      · rw [store_of_submit hvalid]
        exact hs

theorem covers_afterAll (hs : Covers form s) (requests : List Request) :
    Covers form (basic.afterAll (.stored form validation) s requests) := by
  induction requests generalizing s with
  | nil => exact hs
  | cons q requests ih => exact ih (covers_serve hs q)

/-- At any time in a session only a submission whose validation finds no problem changes
the store. It stores the value of each field, or that there is none, and nothing else. A
submission that fails or has problems stores nothing and returns the form with
exactly the problems of its fields; and nothing is ever stored but for declared fields. -/
theorem only_valid_submissions_are_stored (form : Form)
    (validation : Reference → ValidatorContext τ) (requests : List Request) :
    let serve := basic.serve (.stored form validation)
    let s := basic.afterAll (.stored form validation) .empty requests
    (∀ q, (serve s q).2 ≠ s →
      ∃ f g, q = .submit f ∧ (serve s q).1 = .form (.ok g) ∧ g.problems = []) ∧
    (∀ f : Form, (∃ g, (serve s (.submit f)).1 = .form (.ok g) ∧ g.problems = []) ↔
      (serve s (.validate f.fields)).1 = .problems (.ok [])) ∧
    (∀ f g : Form, (serve s (.submit f)).1 = .form (.ok g) → g.problems = [] →
      (∀ x ∈ f.fields, (serve s (.submit f)).2 x.reference = x.value) ∧
      ∀ r, f.contains r = false → (serve s (.submit f)).2 r = s r) ∧
    (∀ (f : Form) (e : FormError), (serve s (.submit f)).1 = .form (.error e) →
      (serve s (.submit f)).2 = s) ∧
    (∀ f g : Form, (serve s (.submit f)).1 = .form (.ok g) → g.problems ≠ [] →
      (serve s (.submit f)).2 = s ∧ g.name = f.name ∧ g.fields = f.fields ∧
        (serve s (.validate f.fields)).1 = .problems (.ok g.problems)) ∧
    (∀ r, s r ≠ none → form.contains r = true) := by
  intro serve s
  have hcovers : Covers form s := covers_afterAll (fun r hr => absurd rfl hr) requests
  refine ⟨?changes, ?accepted, ?stored, ?failed, ?rejected, hcovers⟩
  case changes =>
    intro q hq
    match q with
    | .prepare f => exact absurd (congrArg Prod.snd serve_prepare) hq
    | .validate fields => exact absurd rfl hq
    | .submit f =>
        by_cases hvalid : (basic.validate (.stored form validation) f.fields).value = .ok []
        · exact ⟨f, _, rfl, congrArg Prod.fst (submit_of_valid hvalid), rfl⟩
        · exact absurd (store_of_submit hvalid) hq
  case accepted =>
    intro f
    constructor
    · rintro ⟨g, hg, hnone⟩
      obtain ⟨problems, hvalid, rfl⟩ := validated_of_submit hg
      obtain rfl : problems = [] := hnone
      exact congrArg Response.problems hvalid
    · intro hvalid
      have hvalid := Response.problems.inj hvalid
      exact ⟨_, congrArg Prod.fst (submit_of_valid hvalid), rfl⟩
  case stored =>
    intro f g hg hnone
    obtain ⟨problems, hvalid, rfl⟩ := validated_of_submit hg
    obtain rfl : problems = [] := hnone
    have hstore : (serve s (.submit f)).2 = s.putAll f.fields :=
      congrArg Prod.snd (submit_of_valid hvalid)
    rw [hstore]
    refine ⟨fun x hx => Store.putAll_of_mem f.distinct hx, fun r hr => ?_⟩
    refine Store.putAll_of_forall_ne fun x hx hxr => ?_
    rw [Form.contains_iff.mpr ⟨x, hx, hxr⟩] at hr
    contradiction
  case failed =>
    intro f e he
    refine store_of_submit fun hvalid => ?_
    have hresponse : (serve s (.submit f)).1 = .form (.ok (f.setProblems [])) :=
      congrArg Prod.fst (submit_of_valid hvalid)
    rw [hresponse] at he
    cases he
  case rejected =>
    intro f g hg hsome
    obtain ⟨problems, hvalidate, rfl⟩ := validated_of_submit hg
    have hstore : (serve s (.submit f)).2 = s := by
      refine store_of_submit fun hvalid => hsome ?_
      exact Except.ok.inj (hvalidate.symm.trans hvalid)
    exact ⟨hstore, rfl, rfl, congrArg Response.problems hvalidate⟩

end FormHandler

end PluginForms
