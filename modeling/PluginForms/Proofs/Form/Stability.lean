import PluginForms.Proofs.Alias.Reading
import PluginForms.Proofs.Form.Distinct
import PluginForms.Proofs.Json.Members

/-!
Forms read back from JSON. Whatever a form has is decoded as it was, whether it may be
absent or not, except a value that is `null`: a value is written when there is one, and
the decoder takes a `null` for the absence of a value.
-/

namespace PluginForms

variable {K : Kind}

namespace Json

/-- What the decoder takes a value for. -/
def given? : Json → Option Json
  | null => none
  | j => some j

theorem optional_ok {ρ : Type} (j : Json) :
    (optional .ok j : Except (DecodeError ρ) _) = .ok j.given? := by
  cases j <;> rfl

theorem join_map_given? (value : Option Json) :
    (value.map given?).join = value.bind given? :=
  Option.bind_map

/-- A value is kept if and only if it is not `null`. -/
theorem bind_given?_eq_self_iff {value : Option Json} :
    value.bind given? = value ↔ value ≠ some null := by
  rcases value with _ | _ | _ <;> simp [given?]

/-- The value of a field or of a problem, from the member it is written to. -/
theorem mapM_optional_ok {ρ : Type} (value : Option Json) :
    value.mapM (optional .ok) = (.ok (value.map given?) : Except (DecodeError ρ) _) := by
  cases value with
  | none => rfl
  | some j =>
      rw [Option.mapM_some, optional_ok]
      rfl

end Json

/-! ### Parts -/

@[simp] theorem Reference.decode_encode (r : Reference) : decode r.encode = .ok r := by
  have hread : decode r.encode = (ofText r.chars).mapError .rejected := rfl
  rw [hread, ofText_chars]
  rfl

@[simp] theorem FormName.decode_encode (n : FormName) : decode n.encode = .ok n := by
  have hread : decode n.encode =
      ((ofText n.chars).mapError Json.DecodeError.rejected).mapError (·.map .plugin) := rfl
  rw [hread, ofText_chars]
  rfl

@[simp] theorem Selector.decode_encode (s : Selector K) :
    decode (K := K) s.encode = .ok s := by
  have hread : decode (K := K) s.encode = (ofText s.text).mapError .rejected := rfl
  rw [hread, text, ofText_append s.name s.opens]
  rfl

namespace Problem

/-- The problem without a value that is `null`. -/
def withoutNull (p : Problem) : Problem := { p with value := p.value.bind Json.given? }

theorem withoutNull_eq_self_iff {p : Problem} : p.withoutNull = p ↔ p.value ≠ some .null := by
  rw [← Json.bind_given?_eq_self_iff]
  refine ⟨congrArg value, fun h => ?_⟩
  rw [withoutNull, h]

def members (p : Problem) : List (String × Option Json) :=
  [("message", some (.string p.reason)), ("reference", some p.reference.encode),
    ("value", p.value)]

theorem decode_encode (p : Problem) : decode p.encode = .ok p.withoutNull := by
  have hkeys : (p.members.map (·.1)).Nodup := by simp [members]
  have hmessage : Json.member (Json.present p.members) "message" Json.text =
      (.ok (some p.reason) : Except (Json.DecodeError FormError) _) :=
    Json.member_present_some hkeys rfl rfl
  have hreference : Json.member (Json.present p.members) "reference" Reference.decode =
      .ok (some p.reference) :=
    Json.member_present_some hkeys rfl p.reference.decode_encode
  have hvalue : Json.member (Json.present p.members) "value" (Json.optional .ok) =
      (.ok (p.value.map Json.given?) : Except (Json.DecodeError FormError) _) := by
    rw [Json.member_present hkeys rfl, Json.mapM_optional_ok]
  have hencode : p.encode = .object (Json.present p.members) := rfl
  rw [hencode, decode, hmessage, hreference, hvalue]
  refine congrArg Except.ok ?_
  rw [Json.join_map_given?, withoutNull]

end Problem

namespace Field

/-- The field without a value that is `null`. -/
def withoutNull (x : Field) : Field := { x with value := x.value.bind Json.given? }

theorem withoutNull_eq_self_iff {x : Field} : x.withoutNull = x ↔ x.value ≠ some .null := by
  rw [← Json.bind_given?_eq_self_iff]
  refine ⟨congrArg value, fun h => ?_⟩
  rw [withoutNull, h]

def members (x : Field) : List (String × Option Json) :=
  [("label", some (.string x.label)), ("reference", some x.reference.encode),
    ("type", x.type.map .string), ("validator", x.validator.map (·.encode)), ("value", x.value)]

theorem decode_encode (x : Field) : decode x.encode = .ok x.withoutNull := by
  have hkeys : (x.members.map (·.1)).Nodup := by simp [members]
  have hlabel : Json.member (Json.present x.members) "label" Json.text =
      (.ok (some x.label) : Except (Json.DecodeError FormError) _) :=
    Json.member_present_some hkeys rfl rfl
  have hreference : Json.member (Json.present x.members) "reference" Reference.decode =
      .ok (some x.reference) :=
    Json.member_present_some hkeys rfl x.reference.decode_encode
  have htype : Json.member (Json.present x.members) "type" (Json.optional Json.text) =
      (.ok (x.type.map some) : Except (Json.DecodeError FormError) _) := by
    refine Json.member_present_optional hkeys rfl (fun t _ => rfl) fun t _ h => ?_
    contradiction
  have hvalidator : Json.member (Json.present x.members) "validator" decodeValidator =
      .ok (x.validator.map some) := by
    refine Json.member_present_optional hkeys rfl (fun s _ => ?_) fun s _ h => ?_
    · rw [Json.Decoder.mapReason, s.decode_encode]
      rfl
    · contradiction
  have hvalue : Json.member (Json.present x.members) "value" (Json.optional .ok) =
      (.ok (x.value.map Json.given?) : Except (Json.DecodeError FormError) _) := by
    rw [Json.member_present hkeys rfl, Json.mapM_optional_ok]
  have hencode : x.encode = .object (Json.present x.members) := rfl
  rw [hencode, decode, hlabel, hreference, htype, hvalidator, hvalue]
  refine congrArg Except.ok ?_
  rw [Json.join_map_given?, Json.join_map_some, Json.join_map_some, withoutNull]

end Field

/-! ### Forms -/

namespace Form

/-- The form without the values that are `null`. -/
def withoutNulls (f : Form) : Form where
  name := f.name
  fields := f.fields.map Field.withoutNull
  problems := f.problems.map Problem.withoutNull
  distinct := by
    rw [List.map_map]
    exact f.distinct

theorem withoutNulls_eq_self_iff {f : Form} :
    f.withoutNulls = f ↔
      (∀ x ∈ f.fields, x.value ≠ some .null) ∧ ∀ p ∈ f.problems, p.value ≠ some .null := by
  have hself : f.withoutNulls = f ↔ f.fields.map Field.withoutNull = f.fields.map id ∧
      f.problems.map Problem.withoutNull = f.problems.map id := by
    rw [eq_iff_parts_eq, List.map_id, List.map_id]
    exact and_iff_right rfl
  rw [hself, List.map_inj_left, List.map_inj_left]
  exact and_congr (forall₂_congr fun _ _ => Field.withoutNull_eq_self_iff)
    (forall₂_congr fun _ _ => Problem.withoutNull_eq_self_iff)

def members (f : Form) : List (String × Option Json) :=
  [("errors", if f.problems.isEmpty then none else some (.array (f.problems.map (·.encode)))),
    ("fields", some (.array (f.fields.map (·.encode)))), ("name", some f.name.encode)]

theorem keys_nodup (f : Form) : (f.members.map (·.1)).Nodup := by simp [members]

/-- An empty list of problems is left out, and is what the decoder assumes then. -/
theorem member_errors (f : Form) : ∃ problems,
    Json.member (Json.present f.members) "errors" (Json.listOf Problem.decode) = .ok problems ∧
      problems.getD [] = f.problems.map Problem.withoutNull := by
  have hread : Json.listOf Problem.decode (.array (f.problems.map (·.encode))) =
      .ok (f.problems.map Problem.withoutNull) := Json.listOf_map fun p _ => p.decode_encode
  have hlookup : f.members.lookup "errors" = some (if f.problems.isEmpty then none
      else some (.array (f.problems.map (·.encode)))) := rfl
  cases hempty : f.problems.isEmpty with
  | true =>
      rw [hempty] at hlookup
      refine ⟨none, Json.member_present f.keys_nodup hlookup, ?_⟩
      rw [List.isEmpty_iff.mp hempty]
      rfl
  | false =>
      rw [hempty] at hlookup
      exact ⟨_, Json.member_present_some f.keys_nodup hlookup hread, rfl⟩

theorem decode_encode (f : Form) : decode f.encode = .ok f.withoutNulls := by
  obtain ⟨problems, herrors, hproblems⟩ := f.member_errors
  have hfields : Json.member (Json.present f.members) "fields" (Json.listOf Field.decode) =
      .ok (some (f.fields.map Field.withoutNull)) :=
    Json.member_present_some f.keys_nodup rfl (Json.listOf_map fun x _ => x.decode_encode)
  have hname : Json.member (Json.present f.members) "name" FormName.decode = .ok (some f.name) :=
    Json.member_present_some f.keys_nodup rfl f.name.decode_encode
  have hencode : f.encode = .object (Json.present f.members) := rfl
  rw [hencode, decode, herrors, hfields, hname]
  change assemble f.name (f.fields.map Field.withoutNull) (problems.getD []) = .ok f.withoutNulls
  have hdistinct : ((f.fields.map Field.withoutNull).map (·.reference)).Nodup :=
    f.withoutNulls.distinct
  rw [assemble, hproblems, withFields_of_nodup hdistinct]
  rfl

/-- A form is decoded from its JSON with all that it has, but for values that are `null`,
which are then absent. So it is decoded as itself if and only if no field and no problem
has the value `null`. -/
theorem reads_back_iff_no_null (f : Form) :
    decode f.encode = .ok f.withoutNulls ∧
    (decode f.encode = .ok f ↔
      (∀ x ∈ f.fields, x.value ≠ some .null) ∧ ∀ p ∈ f.problems, p.value ≠ some .null) := by
  refine ⟨f.decode_encode, ?_⟩
  rw [f.decode_encode, Except.ok.injEq]
  exact withoutNulls_eq_self_iff

namespace Sample

def signup : FormName := ⟨"signup".toList, by decide⟩

/-- A field whose value was set to `null`, which is stored where no value is not. -/
def cleared : Field :=
  Field.setValue { reference := ⟨"email".toList, by decide⟩, label := "E-mail".toList } (some .null)

end Sample

open Sample in
/-- A field that was set to `null` comes back without a value. -/
theorem null_value_is_lost : ∃ f : Form, ofFields signup [cleared] = .ok f ∧
    f.fields.map (·.value) = [some .null] ∧
    ∃ g : Form, decode f.encode = .ok g ∧ g.fields.map (·.value) = [none] ∧
      decode f.encode ≠ .ok f := by
  refine ⟨⟨signup, [cleared], [], by decide⟩, rfl, rfl, _, decode_encode _, rfl, fun h => ?_⟩
  rw [decode_encode, Except.ok.injEq, withoutNulls_eq_self_iff] at h
  exact h.1 cleared List.mem_cons_self rfl

end Form

end PluginForms
