import PluginForms.Proofs.Provider.Identity

/-!
Providers side by side. Each name has to have one owner, and then it does not matter in which
order the providers stand: who owns a name decides, and that is a matter of the names alone. If
a name has several owners, all such names are reported, again in whatever order the providers
stand.
-/

namespace PluginForms.Provider

variable {K : Kind} {ε α : Type} {ps ps' : List (Provider K ε α)} {q : Provider K ε α} {n : Name K}

/-- The providers that list the name. -/
def owners (ps : List (Provider K ε α)) (n : Name K) : List (Provider K ε α) :=
  ps.filter fun p => p.infos.contains n

theorem owners_perm (h : ps.Perm ps') (n : Name K) : (owners ps n).Perm (owners ps' n) :=
  h.filter _

/-- A name that has one owner at most has it wherever that stands. -/
theorem owners_eq_of_perm (h : ps.Perm ps') (hone : (owners ps n).length ≤ 1) :
    owners ps' n = owners ps n := by
  have hperm := owners_perm h n
  match howners : owners ps n with
  | [] => exact List.perm_nil.mp (howners ▸ hperm).symm
  | [p] => exact List.perm_singleton.mp (howners ▸ hperm).symm
  | _ :: _ :: _ =>
      rw [howners] at hone
      simp at hone

/-- A catalog lists a name once, so the listings of a name are as many as its owners. -/
theorem count_names (ps : List (Provider K ε α)) (n : Name K) :
    ((ps.flatMap (·.infos.listings)).map (·.name)).count n = (owners ps n).length := by
  induction ps with
  | nil => rfl
  | cons p ps ih =>
      rw [List.flatMap_cons, List.map_append, List.count_append, ih]
      change p.infos.names.count n + _ = _
      cases hn : p.infos.contains n with
      | true =>
          have howners : owners (p :: ps) n = p :: owners ps n := List.filter_cons_of_pos hn
          have hlisted := Catalog.contains_iff_mem_names.mp hn
          rw [List.count_eq_one_of_mem p.infos.names_nodup hlisted, howners, List.length_cons,
            Nat.add_comm]
      | false =>
          rw [Bool.eq_false_iff] at hn
          have howners : owners (p :: ps) n = owners ps n := List.filter_cons_of_neg hn
          have hmissing := mt Catalog.contains_iff_mem_names.mpr hn
          rw [List.count_eq_zero_of_not_mem hmissing, howners, Nat.zero_add]

theorem exists_collect_iff : (∃ q, collect ps = .ok q) ↔ ∀ n, (owners ps n).length ≤ 1 := by
  have hlistings : (∃ q, collect ps = .ok q) ↔
      ∃ infos, Catalog.ofListings (ps.flatMap (·.infos.listings)) = .ok infos := by
    refine ⟨fun ⟨q, h⟩ => ⟨q.infos, (ok_collect h).1⟩, fun ⟨infos, h⟩ => ?_⟩
    rw [collect_eq, h]
    exact ⟨_, rfl⟩
  rw [hlistings, Catalog.exists_ofListings_iff, List.nodup_iff_count]
  simp only [count_names]

theorem error_of_collect {err : PluginError} (h : collect ps = .error err) :
    ∃ names, err = .clash (.duplicate K.label names) ∧ Sorted.Increasing id names ∧
      ∀ k, k ∈ names ↔ ∃ n : Name K, 1 < (owners ps n).length ∧ n.chars = k := by
  have hlistings : Catalog.ofListings (ps.flatMap (·.infos.listings)) = .error err := by
    rw [collect_eq] at h
    cases hinfos : Catalog.ofListings (ps.flatMap (·.infos.listings)) with
    | error e =>
        rw [hinfos] at h
        exact congrArg Except.error (Except.error.inj h)
    | ok infos =>
        rw [hinfos] at h
        contradiction
  simp only [← count_names]
  exact Catalog.error_of_ofListings hlistings

/-- What a name is answered with is up to its owners. -/
theorem plugin_of_collect (h : collect ps = .ok q) (n : Name K) :
    q.plugin n = (owners ps n).head?.elim (fun _ => unknown n) (·.plugin n) := by
  rw [(ok_collect h).2.1, owners, List.head?_filter]

theorem names_of_collect (h : collect ps = .ok q) :
    n ∈ q.infos.names ↔ (owners ps n).length ≠ 0 := by
  rw [← Catalog.contains_iff_mem_names, Catalog.contains_of_ofListings (ok_collect h).1,
    ← List.count_pos_iff, count_names, Nat.pos_iff_ne_zero]

theorem plugin_of_listed_collect (h : collect ps = .ok q) (hn : n ∈ q.infos.names) :
    ∃ p, owners ps n = [p] ∧ q.plugin n = p.plugin n := by
  have hsome := (names_of_collect h).mp hn
  have hone := exists_collect_iff.mp ⟨q, h⟩ n
  obtain ⟨p, hp⟩ := List.length_eq_one_iff.mp (by omega : (owners ps n).length = 1)
  exact ⟨p, hp, by rw [plugin_of_collect h, hp, List.head?_cons, Option.elim_some]⟩

theorem plugin_of_unlisted_collect (h : collect ps = .ok q) (hn : n ∉ q.infos.names) :
    q.plugin n = fun _ => unknown n := by
  have hnone := not_not.mp ((names_of_collect h).not.mp hn)
  rw [plugin_of_collect h, List.length_eq_zero_iff.mp hnone, List.head?_nil,
    Option.elim_none]

theorem collect_perm (h : ps.Perm ps') : collect ps' = collect ps := by
  rw [collect_eq, collect_eq, Catalog.ofListings_perm (h.flatMap_right fun p => p.infos.listings)]
  cases hinfos : Catalog.ofListings (ps.flatMap (·.infos.listings)) with
  | error err => rfl
  | ok infos =>
      -- the first owner of a name is the only one, so looking from elsewhere finds the same
      have hone : ∀ n, (owners ps n).length ≤ 1 := by
        refine exists_collect_iff.mp ?_
        rw [collect_eq, hinfos]
        exact ⟨_, rfl⟩
      refine congrArg (fun plugin => Except.ok (ofResolver infos plugin)) ?_
      funext n values
      have hfind : (ps'.find? fun p => p.infos.contains n) =
          ps.find? fun p => p.infos.contains n := by
        rw [← List.head?_filter, ← List.head?_filter]
        exact congrArg List.head? (owners_eq_of_perm h (hone n))
      rw [hfind]

/-- Providers stand side by side just if no two of them list the same name; otherwise the names
that several of them list are reported, each once and in order. What comes of it lists what
they list, and a name is answered by its one owner. All of this is the same for any order of
the providers. -/
theorem collections_do_not_depend_on_order (ps : List (Provider K ε α)) :
    ((∃ q, collect ps = .ok q) ↔ ∀ n, (owners ps n).length ≤ 1) ∧
    (∀ err, collect ps = .error err → ∃ names, err = .clash (.duplicate K.label names) ∧
      Sorted.Increasing id names ∧
      ∀ k, k ∈ names ↔ ∃ n : Name K, 1 < (owners ps n).length ∧ n.chars = k) ∧
    (∀ q, collect ps = .ok q →
      (∀ l, l ∈ q.infos.listings ↔ ∃ p ∈ ps, l ∈ p.infos.listings) ∧
      (∀ n ∈ q.infos.names, ∃ p, owners ps n = [p] ∧ q.plugin n = p.plugin n) ∧
      ∀ n, n ∉ q.infos.names → ∀ values, q.plugin n values = .fail (.unknown K.label n.chars)) ∧
    ∀ ps', ps.Perm ps' → collect ps' = collect ps := by
  refine ⟨exists_collect_iff, fun err => error_of_collect, fun q h => ⟨fun l => ?_, ?_, ?_⟩,
    fun ps' => collect_perm⟩
  · rw [Catalog.mem_of_ofListings (ok_collect h).1, List.mem_flatMap]
  · exact fun n => plugin_of_listed_collect h
  · intro n hn values
    rw [plugin_of_unlisted_collect h hn]
    rfl

namespace Sample

theorem exists_collected : ∃ p p' q : Provider kind Nat Nat, ofTable asWritten [row] = .ok p ∧
    ofTable asWritten [other] = .ok p' ∧ collect [p, p'] = .ok q ∧
    q.select ⟨a, "(b, 1)".toList, by decide⟩ = ⟨[10, 2], .ok 2⟩ ∧
    collect [p, p', p] = .error (duplicateNames kind [a.chars]) :=
  ⟨_, _, _, rfl, rfl, rfl, rfl, rfl⟩

end Sample

open Sample in
/-- Two tables come to the same in either order, and a selector that needs both of them is
evaluated. With the first table a second time at the end its name has two owners, also with the
other table in front. -/
theorem collections_do_not_depend_on_order_of_tables : ∃ p p' q : Provider kind Nat Nat,
    collect [p', p] = .ok q ∧ q.select ⟨a, "(b, 1)".toList, by decide⟩ = ⟨[10, 2], .ok 2⟩ ∧
    1 < (owners [p, p', p] a).length ∧ ∃ err, collect [p', p, p] = .error err := by
  obtain ⟨p, p', q, -, -, hq, hselect, hshared⟩ := exists_collected
  obtain ⟨-, -, -, hswap⟩ := collections_do_not_depend_on_order [p, p']
  obtain ⟨-, herror, -, hmove⟩ := collections_do_not_depend_on_order [p, p', p]
  obtain ⟨names, hnames, -, howners⟩ := herror _ hshared
  have htwice : a.chars ∈ names := by
    obtain ⟨-, rfl⟩ := Clash.duplicate.inj (PluginError.clash.inj hnames)
    decide
  obtain ⟨n, hn, hchars⟩ := (howners _).mp htwice
  obtain rfl := Name.chars_injective hchars
  exact ⟨p, p', q, (hswap _ (.swap p' p [])).trans hq, hselect, hn, _,
    (hmove _ (.swap p' p [p])).trans hshared⟩

end PluginForms.Provider
