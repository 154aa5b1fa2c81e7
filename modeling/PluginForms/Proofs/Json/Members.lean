import PluginForms.Json.Decode
import PluginForms.Proofs.Plugin.Success

/-!
Records read back from the objects they were written to. In the object that is made of
some members with different keys, a member is decoded from its value, and one without a
value is missing, wherever it stands; so a decoder is followed member by member.
-/

namespace PluginForms.Json

variable {ρ α β : Type} {members : List (String × Option Json)} {key : String}
  {value : Option Json}

/-- Those members that have a value, as they stand in the object. -/
def present (members : List (String × Option Json)) : List (Text × Json) :=
  members.filterMap fun (key, value) => value.map fun j => (key.toList, j)

theorem present_cons_none : present ((key, none) :: members) = present members := rfl

theorem present_cons_some {j : Json} :
    present ((key, some j) :: members) = (key.toList, j) :: present members := rfl

theorem lookup_present_of_not_mem (h : key ∉ members.map (·.1)) :
    (present members).lookup key.toList = none := by
  refine List.lookup_eq_none_iff.mpr fun m hm => ?_
  obtain ⟨⟨k, v⟩, hkv, hpair⟩ := List.mem_filterMap.mp hm
  obtain ⟨j, -, rfl⟩ := Option.map_eq_some_iff.mp hpair
  rw [bne_iff_ne]
  intro hkey
  exact h (List.mem_map.mpr ⟨(k, v), hkv, (String.toList_injective hkey).symm⟩)

theorem lookup_present (hdistinct : (members.map (·.1)).Nodup)
    (h : members.lookup key = some value) : (present members).lookup key.toList = value := by
  induction members with
  | nil => contradiction
  | cons m members ih =>
      obtain ⟨k, v⟩ := m
      rw [List.map_cons, List.nodup_cons] at hdistinct
      by_cases hkey : key = k
      · obtain rfl := hkey
        rw [List.lookup_cons_self] at h
        cases h
        cases value with
        | none =>
            rw [present_cons_none]
            exact lookup_present_of_not_mem hdistinct.1
        | some j => exact List.lookup_cons_self
      · have hne : (key == k) = false := beq_eq_false_iff_ne.mpr hkey
        have hchars : (key.toList == k.toList) = false :=
          beq_eq_false_iff_ne.mpr fun h => hkey (String.toList_injective h)
        rw [List.lookup_cons, hne] at h
        cases v with
        | none => exact ih hdistinct.2 h
        | some j =>
            rw [present_cons_some, List.lookup_cons, hchars]
            exact ih hdistinct.2 h

/-- A member is decoded from its value, if it has one. -/
theorem member_present (hdistinct : (members.map (·.1)).Nodup)
    (h : members.lookup key = some value) {decode : Decoder ρ α} :
    member (present members) key decode = value.mapM decode := by
  rw [member, lookup_present hdistinct h]
  cases value with
  | none => rfl
  | some j => rfl

theorem member_present_some (hdistinct : (members.map (·.1)).Nodup) {j : Json}
    (h : members.lookup key = some (some j)) {decode : Decoder ρ α} {a : α}
    (hread : decode j = .ok a) : member (present members) key decode = .ok (some a) := by
  rw [member_present hdistinct h, Option.mapM_some, hread]
  rfl

/-- What may be absent is read back if it is, when there is something, no `null`. -/
theorem member_present_optional (hdistinct : (members.map (·.1)).Nodup) {encode : α → Json}
    {o : Option α} (h : members.lookup key = some (o.map encode)) {decode : Decoder ρ α}
    (hread : ∀ a ∈ o, decode (encode a) = .ok a) (hnull : ∀ a ∈ o, encode a ≠ null) :
    member (present members) key (optional decode) = .ok (o.map some) := by
  rw [member_present hdistinct h]
  cases o with
  | none => rfl
  | some a =>
      have hoptional : optional decode (encode a) = some <$> decode (encode a) := by
        cases hencode : encode a with
        | null => exact absurd hencode (hnull a rfl)
        | _ => rfl
      rw [Option.map_some, Option.mapM_some, hoptional, hread a rfl]
      rfl

/-- A field is required, so it is there when reading succeeds. -/
theorem ok_require_iff {o : Option α} {a : α} :
    (require key o : Except (DecodeError ρ) α) = .ok a ↔ o = some a := by
  cases o with
  | none => exact iff_of_false nofun nofun
  | some b => rw [require, Except.ok.injEq, Option.some.injEq]

theorem join_map_some (o : Option α) : (o.map some).join = o := by
  cases o <;> rfl

/-- A list is decoded as what its elements are decoded as. -/
theorem listOf_map {decode : Decoder ρ α} {encode : β → Json} {read : β → α} {l : List β}
    (h : ∀ b ∈ l, decode (encode b) = .ok (read b)) :
    listOf decode (.array (l.map encode)) = .ok (l.map read) := by
  refine ok_mapM_iff.mpr ?_
  rw [List.forall₂_map_left_iff, List.forall₂_map_right_iff, List.forall₂_same]
  exact h

end PluginForms.Json
