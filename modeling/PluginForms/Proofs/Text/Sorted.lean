import PluginForms.Text.Sorted

/-!
What is in a list after it was sorted by its keys, and when a key is repeated. A list
whose keys are all different is only put into order; one that repeats a key loses
all but the first of its elements.
-/

namespace PluginForms.Sorted

variable {α : Type} {key : α → Text}

theorem mem_insert_self (a : α) (l : List α) : a ∈ insert key a l := by
  induction l with
  | nil => exact List.mem_singleton_self a
  | cons b l ih =>
      unfold insert
      split
      · exact List.mem_cons_self
      · split
        · exact List.mem_cons_of_mem b ih
        · exact List.mem_cons_self

theorem mem_insert_of_mem {a b : α} {l : List α} (h : b ∈ l) (hkey : key b ≠ key a) :
    b ∈ insert key a l := by
  induction l with
  | nil => contradiction
  | cons c l ih =>
      unfold insert
      split
      · exact List.mem_cons_of_mem a h
      · rename_i hac
        split
        · rcases List.mem_cons.mp h with rfl | h
          · exact List.mem_cons_self
          · exact List.mem_cons_of_mem c (ih h)
        · rename_i hca
          rcases List.mem_cons.mp h with rfl | h
            -- neither key is below the other, so `b` would be the element replaced
          · exact absurd (Text.lt_of_not_lt_of_ne hac hkey.symm) hca
          · exact List.mem_cons_of_mem a h

theorem mem_of_mem_ofList {a : α} {l : List α} (h : a ∈ ofList key l) : a ∈ l := by
  induction l with
  | nil => exact h
  | cons b l ih =>
      rcases mem_of_mem_insert key h with rfl | h
      · exact List.mem_cons_self
      · exact List.mem_cons_of_mem b (ih h)

theorem mem_ofList_iff {a : α} {l : List α} (h : (l.map key).Nodup) :
    a ∈ ofList key l ↔ a ∈ l := by
  refine ⟨mem_of_mem_ofList, fun ha => ?_⟩
  induction l with
  | nil => exact ha
  | cons b l ih =>
      rw [List.map_cons, List.nodup_cons] at h
      rcases List.mem_cons.mp ha with rfl | ha
      · exact mem_insert_self a _
      · refine mem_insert_of_mem (ih h.2 ha) fun hkey => h.1 ?_
        rw [← hkey]
        exact List.mem_map_of_mem ha

theorem mem_texts_iff {t : Text} {l : List Text} : t ∈ texts l ↔ t ∈ l := by
  refine ⟨mem_of_mem_ofList, fun ht => ?_⟩
  induction l with
  | nil => exact ht
  | cons u l ih =>
      by_cases htu : t = u
      · rw [htu]
        exact mem_insert_self u _
      · exact mem_insert_of_mem (ih ((List.mem_cons.mp ht).resolve_left htu)) htu

theorem ofList_eq_nil_iff {l : List α} : ofList key l = [] ↔ l = [] := by
  cases l with
  | nil => exact Iff.rfl
  | cons a l =>
      have hmem : a ∈ ofList key (a :: l) := mem_insert_self a _
      refine iff_of_false (fun h => ?_) (List.cons_ne_nil a l)
      rw [h] at hmem
      contradiction

theorem repeated_eq_nil_iff {l : List α} : repeated key l = [] ↔ (l.map key).Nodup := by
  rw [repeated, ofList_eq_nil_iff, List.filter_eq_nil_iff, List.nodup_iff_count]
  constructor
  · intro h k
    by_cases hk : k ∈ l.map key
    · have := h k hk
      rw [decide_eq_true_eq] at this
      omega
    · rw [List.count_eq_zero_of_not_mem hk]
      exact Nat.zero_le 1
  · intro h k hk
    have := h k
    rw [decide_eq_true_eq]
    omega

/-- The repeated keys are those that occur more than once. -/
theorem mem_repeated_iff {k : Text} {l : List α} :
    k ∈ repeated key l ↔ 1 < (l.map key).count k := by
  have htexts : repeated key l =
      texts ((l.map key).filter fun k => decide (1 < (l.map key).count k)) := rfl
  rw [htexts, mem_texts_iff, List.mem_filter, decide_eq_true_eq]
  exact and_iff_right_of_imp fun h => List.count_pos_iff.mp (Nat.lt_of_succ_lt h)

theorem insert_of_forall_lt {a : α} {l : List α} (h : ∀ b ∈ l, key a < key b) :
    insert key a l = a :: l := by
  cases l with
  | nil => rfl
  | cons b l => rw [insert, if_pos (h b List.mem_cons_self)]

/-- An increasing list is in order already. -/
theorem Increasing.ofList_eq {l : List α} (h : Increasing key l) : ofList key l = l := by
  induction l with
  | nil => rfl
  | cons a l ih =>
      rw [Increasing, List.pairwise_cons] at h
      have hstep : ofList key (a :: l) = insert key a (ofList key l) := rfl
      rw [hstep, ih h.2, insert_of_forall_lt h.1]

theorem Increasing.keys_nodup {l : List α} (h : Increasing key l) : (l.map key).Nodup := by
  refine List.Pairwise.map key (fun a b hlt heq => ?_) h
  rw [heq] at hlt
  exact List.lt_irrefl _ hlt

theorem Increasing.repeated_eq_nil {l : List α} (h : Increasing key l) : repeated key l = [] :=
  repeated_eq_nil_iff.mpr h.keys_nodup

/-- An increasing list is known by its members. -/
theorem Increasing.eq_of_mem_iff {l l' : List α} (h : Increasing key l) (h' : Increasing key l')
    (hmem : ∀ a, a ∈ l ↔ a ∈ l') : l = l' := by
  have hnodup {l : List α} (h : Increasing key l) : l.Nodup := by
    refine List.Pairwise.imp (fun {a b} hlt => ?_) h
    rintro rfl
    exact List.lt_irrefl _ hlt
  refine List.Perm.eq_of_pairwise (fun a b _ _ hab hba => ?_) h h'
    ((List.perm_ext_iff_of_nodup (hnodup h) (hnodup h')).mpr hmem)
  exact absurd (List.lt_trans hab hba) (List.lt_irrefl _)

/-- The order of a list does not matter for the keys that it repeats. -/
theorem repeated_perm {l l' : List α} (h : l.Perm l') : repeated key l' = repeated key l := by
  refine (increasing_ofList id _).eq_of_mem_iff (increasing_ofList id _) fun k => ?_
  change k ∈ repeated key l' ↔ k ∈ repeated key l
  rw [mem_repeated_iff, mem_repeated_iff, (h.map key).count_eq]

/-- An increasing list has one element for a key. -/
theorem Increasing.eq_of_key_eq {l : List α} (h : Increasing key l) {a b : α} (ha : a ∈ l)
    (hb : b ∈ l) (hkey : key a = key b) : a = b := by
  induction l with
  | nil => contradiction
  | cons c l ih =>
      rw [Increasing, List.pairwise_cons] at h
      rcases List.mem_cons.mp ha with rfl | ha'
      · rcases List.mem_cons.mp hb with rfl | hb'
        · rfl
        · have hlt := h.1 b hb'
          rw [hkey] at hlt
          exact absurd hlt (List.lt_irrefl _)
      · rcases List.mem_cons.mp hb with rfl | hb'
        · have hlt := h.1 a ha'
          rw [hkey] at hlt
          exact absurd hlt (List.lt_irrefl _)
        · exact ih h.2 ha' hb'

/-- What is found first in an increasing list has the least key of all that could be found. -/
theorem Increasing.find?_eq_some_iff {l : List α} (h : Increasing key l) {p : α → Bool} {a : α} :
    l.find? p = some a ↔ a ∈ l ∧ p a = true ∧ ∀ b ∈ l, p b = true → b = a ∨ key a < key b := by
  rw [List.find?_eq_some_iff_append]
  constructor
  · rintro ⟨hpa, before, after, rfl, hbefore⟩
    refine ⟨List.mem_append_right before List.mem_cons_self, hpa, fun b hb hpb => ?_⟩
    rcases List.mem_append.mp hb with hb | hb
    · have := hbefore b hb
      rw [hpb] at this
      contradiction
    · refine (List.mem_cons.mp hb).imp_right fun hb => ?_
      exact (List.pairwise_cons.mp (List.pairwise_append.mp h).2.1).1 b hb
  · rintro ⟨ha, hpa, hleast⟩
    obtain ⟨before, after, rfl⟩ := List.append_of_mem ha
    refine ⟨hpa, before, after, rfl, fun b hb => ?_⟩
    have hlt : key b < key a := (List.pairwise_append.mp h).2.2 b hb a List.mem_cons_self
    rw [Bool.not_eq_true']
    refine Bool.eq_false_iff.mpr fun hpb => ?_
    rcases hleast b (List.mem_append_left _ hb) hpb with rfl | hgt
    · exact List.lt_irrefl _ hlt
    · exact List.lt_irrefl _ (List.lt_trans hlt hgt)

end PluginForms.Sorted
