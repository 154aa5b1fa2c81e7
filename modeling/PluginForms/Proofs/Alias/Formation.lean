import PluginForms.Proofs.Alias.View

/-!
Which lists of aliases make a set. Their names have to be different, and none that stands for
something may have a name that is renamed; so what an alias renames is at most kept visible by
a plain alias, and no name leads further than one step. The order of the list does not matter.
-/

namespace PluginForms

variable {K : Kind}

/-- The aliases have different names, none of them renames itself, and none that stands for
something has a name that one of them renames. -/
structure Alias.Compatible (as : List (Alias K)) : Prop where
  distinct : (as.map (·.name)).Nodup
  others : ∀ a ∈ as, a.target? ≠ some a.name
  unchained : ∀ a ∈ as, a.isPlain = false → ∀ b ∈ as, b.target? ≠ some a.name

theorem Alias.Compatible.perm {as bs : List (Alias K)} (h : Compatible as) (hperm : as.Perm bs) :
    Compatible bs where
  distinct := (hperm.map _).nodup_iff.mp h.distinct
  others a ha := h.others a (hperm.mem_iff.mpr ha)
  unchained a ha hplain b hb :=
    h.unchained a (hperm.mem_iff.mpr ha) hplain b (hperm.mem_iff.mpr hb)

namespace AliasSet

variable {s s' : AliasSet K} {as bs : List (Alias K)} {a b : Alias K} {t : Name K}

theorem eq_of_aliases (h : s.aliases = s'.aliases) : s = s' := by
  cases s
  cases s'
  cases h
  rfl

/-- No alias of a set renames itself: it would stand for something under a renamed name. -/
theorem target?_ne (s : AliasSet K) (ha : a ∈ s.aliases) : a.target? ≠ some a.name := by
  intro htarget
  refine name_not_mem_targets ha (Alias.not_plain_of_target? htarget) ?_
  exact Alias.mem_targets_iff.mpr ⟨a, ha, htarget⟩

/-! ### Sets from lists -/

theorem ok_ofAliases (h : ofAliases as = .ok s) :
    Sorted.repeated Alias.key as = [] ∧ s.aliases = Sorted.ofList Alias.key as := by
  rw [ofAliases] at h
  split at h
  · contradiction
  · split at h
    · rename_i hrepeated
      dsimp only at h
      split at h
      · cases h
        exact ⟨hrepeated, rfl⟩
      · contradiction
    · contradiction

theorem aliases_of_ofAliases (h : ofAliases as = .ok s) :
    s.aliases = Sorted.ofList Alias.key as :=
  (ok_ofAliases h).2

theorem repeated_eq_nil_iff : Sorted.repeated Alias.key as = [] ↔ (as.map (·.name)).Nodup := by
  have hkeys : as.map Alias.key = (as.map (·.name)).map (·.chars) := by
    rw [List.map_map]
    rfl
  rw [Sorted.repeated_eq_nil_iff, hkeys, List.nodup_map_iff Name.chars_injective]

/-- A set is made of the aliases that it is given, which have different names. -/
theorem mem_of_ofAliases (h : ofAliases as = .ok s) :
    (as.map (·.name)).Nodup ∧ ∀ a, a ∈ s.aliases ↔ a ∈ as := by
  obtain ⟨hrepeated, haliases⟩ := ok_ofAliases h
  refine ⟨repeated_eq_nil_iff.mp hrepeated, fun a => ?_⟩
  rw [haliases]
  exact Sorted.mem_ofList_iff (Sorted.repeated_eq_nil_iff.mp hrepeated)

theorem compatible_of_ofAliases (h : ofAliases as = .ok s) : Alias.Compatible as := by
  obtain ⟨hdistinct, hmem⟩ := mem_of_ofAliases h
  refine ⟨hdistinct, fun a ha => s.target?_ne ((hmem a).mpr ha), fun a ha hplain b hb => ?_⟩
  intro htarget
  refine name_not_mem_targets ((hmem a).mpr ha) hplain ?_
  exact Alias.mem_targets_iff.mpr ⟨b, (hmem b).mpr hb, htarget⟩

theorem exists_ofAliases (h : Alias.Compatible as) : ∃ s, ofAliases as = .ok s := by
  have hself : (as.find? fun a => a.target? == some a.name) = none := by
    refine List.find?_eq_none.mpr fun a ha => ?_
    rw [beq_iff_eq]
    exact h.others a ha
  have hshadowed : (Sorted.ofList Alias.key as).filter
      (Alias.isShadowed (Sorted.ofList Alias.key as)) = [] := by
    refine List.filter_eq_nil_iff.mpr fun a ha => ?_
    rw [Alias.isShadowed, Bool.and_eq_true, Bool.not_eq_true', List.contains_iff_mem]
    rintro ⟨hplain, htarget⟩
    obtain ⟨b, hb, htarget⟩ := Alias.mem_targets_iff.mp htarget
    exact h.unchained a (Sorted.mem_of_mem_ofList ha) hplain b (Sorted.mem_of_mem_ofList hb) htarget
  rw [ofAliases, hself, repeated_eq_nil_iff.mpr h.distinct]
  dsimp only
  split
  · exact ⟨_, rfl⟩
  · rename_i hne
    rw [hshadowed] at hne
    exact absurd rfl hne

theorem exists_ofAliases_iff : (∃ s, ofAliases as = .ok s) ↔ Alias.Compatible as :=
  ⟨fun ⟨_, h⟩ => compatible_of_ofAliases h, exists_ofAliases⟩

/-- A list with the same aliases makes the same set. -/
theorem ofAliases_perm (hperm : as.Perm bs) (h : ofAliases as = .ok s) :
    ofAliases bs = .ok s := by
  obtain ⟨s', hs'⟩ := exists_ofAliases ((compatible_of_ofAliases h).perm hperm)
  have hmem (a : Alias K) : a ∈ s'.aliases ↔ a ∈ s.aliases := by
    rw [(mem_of_ofAliases hs').2, (mem_of_ofAliases h).2, hperm.mem_iff]
  rw [hs', eq_of_aliases (s'.increasing.eq_of_mem_iff s.increasing hmem)]

/-- The aliases of a set make that set. -/
theorem ofAliases_aliases (s : AliasSet K) : ofAliases s.aliases = .ok s := by
  have hcompatible : Alias.Compatible s.aliases := by
    refine ⟨repeated_eq_nil_iff.mp s.increasing.repeated_eq_nil, fun a ha => s.target?_ne ha, ?_⟩
    intro a ha hplain b hb htarget
    exact name_not_mem_targets ha hplain (Alias.mem_targets_iff.mpr ⟨b, hb, htarget⟩)
  obtain ⟨s', hs'⟩ := exists_ofAliases hcompatible
  rw [hs', eq_of_aliases ((aliases_of_ofAliases hs').trans s.increasing.ofList_eq)]

theorem error_ofAliases {e : PluginError} (h : ofAliases as = .error e) :
    ∃ fault, e = .clash fault := by
  rw [ofAliases] at h
  split at h
  · exact ⟨_, (Except.error.inj h).symm⟩
  · split at h
    · dsimp only at h
      split at h
      · contradiction
      · exact ⟨_, (Except.error.inj h).symm⟩
    · exact ⟨_, (Except.error.inj h).symm⟩

/-! ### Renamed names -/

/-- Only a plain alias has a name that is renamed. -/
theorem isPlain_of_target? (ha : a ∈ s.aliases) (htarget : a.target? = some t)
    (hb : b ∈ s.aliases) (hname : b.name = t) : b.isPlain = true := by
  rw [← Bool.not_eq_false]
  intro hplain
  refine name_not_mem_targets hb hplain ?_
  rw [hname]
  exact Alias.mem_targets_iff.mpr ⟨a, ha, htarget⟩

/-- A renamed name is behind itself or hidden. -/
theorem behind?_of_target? (ha : a ∈ s.aliases) (htarget : a.target? = some t) :
    s.behind? t = if .plain t ∈ s.aliases then some t else none := by
  cases hfind : s.find? t with
  | none =>
      have hrenamed : (Alias.targets s.aliases).contains t = true :=
        List.contains_iff_mem.mpr (Alias.mem_targets_iff.mpr ⟨a, ha, htarget⟩)
      rw [behind?, hfind, if_neg fun hplain => name_ne_of_find? hfind hplain rfl]
      exact if_pos hrenamed
  | some b =>
      obtain ⟨hb, hname⟩ := find?_mem hfind
      have hplain := isPlain_of_target? ha htarget hb hname
      cases b with
      | plain n =>
          obtain rfl : n = t := hname
          rw [behind?, hfind, if_pos hb]
          rfl
      | standsFor n x u => contradiction

/-- A list makes a set if and only if its aliases have different names, none renames itself and
none that stands for something is renamed. Otherwise there is a clash, and the order of the
list does not matter to any of this. So renames never chain: what an alias renames is the name
of a plain alias at most, which is then behind itself, and else nothing is behind it. -/
theorem renames_never_chain (as : List (Alias K)) :
    ((∃ s, ofAliases as = .ok s) ↔ Alias.Compatible as) ∧
    (∀ e, ofAliases as = .error e → ∃ fault, e = .clash fault) ∧
    (∀ bs, as.Perm bs → ∀ s, ofAliases as = .ok s ↔ ofAliases bs = .ok s) ∧
    ∀ s, ofAliases as = .ok s → (∀ a, a ∈ s.aliases ↔ a ∈ as) ∧
      ∀ a ∈ s.aliases, ∀ t, a.target? = some t →
        (∀ b ∈ s.aliases, b.name = t → b.isPlain = true) ∧
        s.behind? t = if .plain t ∈ s.aliases then some t else none := by
  refine ⟨exists_ofAliases_iff, fun e => error_ofAliases, fun bs hperm s => ?_, fun s h => ?_⟩
  · exact ⟨ofAliases_perm hperm, ofAliases_perm hperm.symm⟩
  · refine ⟨(mem_of_ofAliases h).2, fun a ha t htarget => ?_⟩
    exact ⟨fun b hb hname => isPlain_of_target? ha htarget hb hname, behind?_of_target? ha htarget⟩

end AliasSet

end PluginForms
