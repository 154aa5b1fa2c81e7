import Mathlib.Data.List.Perm.Basic
import PluginForms.Proofs.Alias.Formation

/-!
When a set of aliases can be applied to a catalog. What the set shows of the catalog are the
listings that it keeps and one listing for each alias that stands for something, so the only
names that can occur twice are those of such aliases in the catalog itself.
-/

namespace PluginForms

variable {K : Kind}

/-- An alias that stands for something renames a plugin or abbreviates a selector. -/
theorem Alias.isPlain_eq_false_iff {a : Alias K} :
    a.isPlain = false ↔ (∃ n, a.target? = some n) ∨ a.expansion?.isSome = true := by
  cases a with
  | plain n => simp [isPlain, target?, expansion?]
  | standsFor n x u => cases hlist : x.hasList <;> simp [isPlain, target?, expansion?, hlist]

namespace AliasSet

variable {s : AliasSet K} {c d : Catalog K} {n m : Name K} {a : Alias K}

/-! ### The names of a view -/

/-- A name of the catalog is seen as itself. -/
def keeps (s : AliasSet K) (n : Name K) : Bool :=
  (s.aliases.filter fun a => a.target? == some n).isEmpty || (s.find? n).any (·.isPlain)

theorem keeps_of_not_plain (ha : a ∈ s.aliases) (hplain : a.isPlain = false) :
    s.keeps a.name = true := by
  rw [keeps, Bool.or_eq_true, List.isEmpty_iff, List.filter_eq_nil_iff]
  refine .inl fun b hb htarget => name_not_mem_targets ha hplain ?_
  exact Alias.mem_targets_iff.mpr ⟨b, hb, beq_iff_eq.mp htarget⟩

theorem names_nodup (s : AliasSet K) : (s.aliases.map (·.name)).Nodup :=
  repeated_eq_nil_iff.mp s.increasing.repeated_eq_nil

theorem map_name_visible (l : Listing K) :
    (s.visible l).map (·.name) = (if s.keeps l.name then [l.name] else []) ++
      (s.aliases.filter fun a => a.target? == some l.name).map (·.name) := by
  have hkeeps : ((s.aliases.filter fun a => a.target? == some l.name).isEmpty = true ∨
      (s.find? l.name).any (·.isPlain) = true) = (s.keeps l.name = true) := by
    rw [keeps, Bool.or_eq_true]
  rw [visible, List.map_append, List.map_map]
  simp only [hkeeps]
  congr 1
  split <;> rfl

/-- The plugins of the catalog are renamed by the aliases that rename something, each of which
renames one of them. -/
theorem standing_perm (hdeclared : s.Declared c) :
    ((c.listings.flatMap fun l => s.aliases.filter fun a => a.target? == some l.name) ++
      s.aliases.filter (·.expansion?.isSome)).Perm (s.aliases.filter (!·.isPlain)) := by
  have hnodup : s.aliases.Nodup := s.names_nodup.of_map
  refine (List.perm_ext_iff_of_nodup ?_ (hnodup.filter _)).mpr fun a => ?_
  · refine List.nodup_append.mpr ⟨List.nodup_flatMap.mpr ⟨fun l _ => hnodup.filter _, ?_⟩,
      hnodup.filter _, ?_⟩
    · refine (List.pairwise_map.mp c.names_nodup).imp fun {l k} hne a hl hk => hne ?_
      simp only [List.mem_filter, beq_iff_eq] at hl hk
      exact Option.some.inj (hl.2.symm.trans hk.2)
    · rintro a ha b hb rfl
      obtain ⟨l, -, hl⟩ := List.mem_flatMap.mp ha
      have hexpansion := Alias.expansion?_of_target? (beq_iff_eq.mp (List.mem_filter.mp hl).2)
      rw [List.mem_filter, hexpansion] at hb
      exact absurd hb.2 Bool.false_ne_true
  · simp only [List.mem_append, List.mem_flatMap, List.mem_filter, beq_iff_eq, Bool.not_eq_true',
      Alias.isPlain_eq_false_iff, and_or_left]
    refine or_congr_left ⟨fun ⟨l, _, ha, htarget⟩ => ⟨ha, _, htarget⟩, fun ⟨ha, n, htarget⟩ => ?_⟩
    have hrefers := hdeclared a ha
    rw [Alias.refersTo_of_target? htarget] at hrefers
    obtain ⟨l, hl, rfl⟩ := Catalog.contains_iff.mp hrefers
    exact ⟨l, hl, ha, htarget⟩

theorem map_name_expanded (hdeclared : s.Declared c) :
    (s.aliases.filterMap (expanded? c)).map (·.name) =
      (s.aliases.filter (·.expansion?.isSome)).map (·.name) := by
  rw [List.map_filterMap, ← List.filterMap_eq_map, List.filterMap_filter]
  refine List.filterMap_congr fun a ha => ?_
  cases hx : a.expansion? with
  | none => simp [expanded?, hx]
  | some x =>
      have hrefers := hdeclared a ha
      rw [Alias.refersTo_of_expansion? hx] at hrefers
      obtain ⟨l, hl⟩ := exists_expanded? hx hrefers
      simp [hl, expanded?_name hl]

/-- What is seen through the aliases has the names of the catalog that are kept and those of
the aliases that stand for something. -/
theorem names_perm (hdeclared : s.Declared c) :
    ((c.listings.flatMap s.visible ++ s.aliases.filterMap (expanded? c)).map (·.name)).Perm
      (c.names.filter s.keeps ++ (s.aliases.filter (!·.isPlain)).map (·.name)) := by
  have hkept (ls : List (Listing K)) :
      (ls.flatMap fun l => if s.keeps l.name then [l.name] else []) =
        (ls.map (·.name)).filter s.keeps := by
    induction ls with
    | nil => rfl
    | cons l ls ih =>
        rw [List.flatMap_cons, List.map_cons, List.filter_cons, ih]
        split <;> rfl
  have hvisible : ((c.listings.flatMap s.visible).map (·.name)).Perm
      (c.names.filter s.keeps ++ (c.listings.flatMap fun l =>
        s.aliases.filter fun a => a.target? == some l.name).map (·.name)) := by
    rw [List.map_flatMap, List.map_flatMap, Catalog.names, ← hkept]
    simp only [map_name_visible]
    exact (List.flatMap_append_perm _ _ _).symm
  rw [List.map_append, map_name_expanded hdeclared]
  refine (hvisible.append_right _).trans ?_
  rw [List.append_assoc, ← List.map_append]
  exact ((standing_perm hdeclared).map _).append_left _

/-! ### When aliases can be applied -/

/-- An alias that stands for something has a name of the catalog. -/
def Takes (s : AliasSet K) (c : Catalog K) (a : Alias K) : Prop :=
  a ∈ s.aliases ∧ a.isPlain = false ∧ c.contains a.name = true

theorem one_lt_count_iff (hdeclared : s.Declared c) :
    1 < ((c.listings.flatMap s.visible ++ s.aliases.filterMap (expanded? c)).map (·.name)).count n ↔
      ∃ a, s.Takes c a ∧ a.name = n := by
  have hstanding : ((s.aliases.filter (!·.isPlain)).map (·.name)).Nodup :=
    s.names_nodup.sublist (List.filter_sublist.map _)
  have hkept : (c.names.filter s.keeps).Nodup := c.names_nodup.filter _
  rw [(names_perm hdeclared).count_eq, List.count_append]
  constructor
  · intro hcount
    have hle := List.nodup_iff_count_le_one.mp hkept n
    have hle' := List.nodup_iff_count_le_one.mp hstanding n
    -- neither list has the name twice, so it is in both
    have hn : n ∈ c.names.filter s.keeps := List.count_pos_iff.mp (by omega)
    have hn' : n ∈ (s.aliases.filter (!·.isPlain)).map (·.name) :=
      List.count_pos_iff.mp (by omega)
    obtain ⟨a, ha, rfl⟩ := List.mem_map.mp hn'
    obtain ⟨ha, hplain⟩ := List.mem_filter.mp ha
    refine ⟨a, ⟨ha, by simpa using hplain, ?_⟩, rfl⟩
    exact Catalog.contains_iff_mem_names.mpr (List.mem_filter.mp hn).1
  · rintro ⟨a, ⟨ha, hplain, hcontains⟩, rfl⟩
    have hn : a.name ∈ c.names.filter s.keeps :=
      List.mem_filter.mpr ⟨Catalog.contains_iff_mem_names.mp hcontains,
        keeps_of_not_plain ha hplain⟩
    have hn' : a.name ∈ (s.aliases.filter (!·.isPlain)).map (·.name) :=
      List.mem_map_of_mem (List.mem_filter.mpr ⟨ha, by simpa using hplain⟩)
    have hpos := List.count_pos_iff.mpr hn
    have hpos' := List.count_pos_iff.mpr hn'
    omega

/-- Aliases that refer to what the catalog has can be applied unless one of them takes a name
of the catalog. -/
theorem exists_apply_iff_of_declared (hdeclared : s.Declared c) :
    (∃ d, s.apply c = .ok d) ↔ ∀ a, ¬ s.Takes c a := by
  have hfind : (s.aliases.find? fun a => !c.contains a.refersTo) = none := by
    refine List.find?_eq_none.mpr fun a ha => ?_
    rw [hdeclared a ha]
    exact Bool.false_ne_true
  rw [apply]
  split
  · rename_i hempty
    refine iff_of_true ⟨c, rfl⟩ fun a ha => ?_
    have ha := ha.1
    rw [List.isEmpty_iff.mp hempty] at ha
    contradiction
  · rw [hfind]
    dsimp only
    rw [Catalog.exists_ofListings_iff, List.nodup_iff_count_le_one]
    constructor
    · intro hle a ha
      have hlt := (one_lt_count_iff hdeclared).mpr ⟨a, ha, rfl⟩
      exact absurd (hle a.name) (Nat.not_le_of_lt hlt)
    · intro hfree n
      refine Nat.le_of_not_lt fun hlt => ?_
      obtain ⟨a, ha, -⟩ := (one_lt_count_iff hdeclared).mp hlt
      exact hfree a ha

theorem error_of_declared {e : PluginError} (hdeclared : s.Declared c)
    (h : s.apply c = .error e) : ∃ names, e = .clash (.duplicate K.label names) ∧
      Sorted.Increasing id names ∧ ∀ k, k ∈ names ↔ ∃ a, s.Takes c a ∧ a.name.chars = k := by
  rw [apply] at h
  split at h
  · contradiction
  · split at h
    · rename_i a hfind
      have hmissing := List.find?_some hfind
      rw [hdeclared a (List.mem_of_find?_eq_some hfind)] at hmissing
      contradiction
    · obtain ⟨names, he, hincreasing, hmem⟩ := Catalog.error_of_ofListings h
      refine ⟨names, he, hincreasing, fun k => ?_⟩
      rw [hmem]
      simp only [one_lt_count_iff hdeclared]
      constructor
      · rintro ⟨_, ⟨a, ha, rfl⟩, rfl⟩
        exact ⟨a, ha, rfl⟩
      · rintro ⟨a, ha, rfl⟩
        exact ⟨a.name, ⟨a, ha, rfl⟩, rfl⟩

/-- The first alias that refers to a missing name decides the error. -/
theorem error_of_not_declared (h : ¬ s.Declared c) : ∃ a ∈ s.aliases,
    c.contains a.refersTo = false ∧
      (∀ b ∈ s.aliases, b.name < a.name → c.contains b.refersTo = true) ∧
      s.apply c = .error (.unknownName a.refersTo) := by
  cases hfind : s.aliases.find? fun a => !c.contains a.refersTo with
  | none =>
      refine absurd (fun a ha => ?_) h
      simpa using List.find?_eq_none.mp hfind a ha
  | some a =>
      obtain ⟨hmissing, before, after, haliases, hbefore⟩ :=
        List.find?_eq_some_iff_append.mp hfind
      have ha : a ∈ s.aliases := List.mem_of_find?_eq_some hfind
      have hempty : s.isEmpty = false := List.isEmpty_eq_false_iff.mpr (List.ne_nil_of_mem ha)
      refine ⟨a, ha, by simpa using hmissing, fun b hb hlt => ?_, ?_⟩
      · rw [haliases, List.mem_append, List.mem_cons] at hb
        rcases hb with hb | rfl | hb
        · simpa using hbefore b hb
        · exact absurd hlt (List.lt_irrefl _)
        · -- what stands after `a` has a greater name
          have hincreasing := s.increasing
          rw [Sorted.Increasing, haliases, List.pairwise_append, List.pairwise_cons] at hincreasing
          exact absurd (List.lt_trans hlt (hincreasing.2.1.1 b hb)) (List.lt_irrefl _)
      · rw [apply, hempty, hfind]
        rfl

theorem declared_of_apply {d : Catalog K} (h : s.apply c = .ok d) : s.Declared c := by
  by_contra hnot
  obtain ⟨a, -, -, -, herror⟩ := error_of_not_declared hnot
  rw [h] at herror
  contradiction

/-- An alias that was applied and stands for something has a name of its own: with another plugin
of that name the view would list it twice. -/
theorem not_contains_of_not_plain {d : Catalog K} (h : s.apply c = .ok d) (ha : a ∈ s.aliases)
    (hplain : a.isPlain = false) : c.contains a.name = false := by
  refine Bool.eq_false_iff.mpr fun hcontains => ?_
  exact (exists_apply_iff_of_declared (declared_of_apply h)).mp ⟨d, h⟩ a ⟨ha, hplain, hcontains⟩

/-- Aliases can be applied to a catalog if and only if it has every name that they refer to and
none that an alias takes which stands for something. The first missing name in the order of the
aliases is reported as unknown; if none is missing, the taken names are reported, each once and
in order. -/
theorem apply_fails_exactly_when_it_must (s : AliasSet K) (c : Catalog K) :
    ((∃ d, s.apply c = .ok d) ↔
      (∀ a ∈ s.aliases, c.contains a.refersTo = true) ∧
      ∀ a ∈ s.aliases, a.isPlain = false → c.contains a.name = false) ∧
    ((∃ a ∈ s.aliases, c.contains a.refersTo = false) → ∃ a ∈ s.aliases,
      c.contains a.refersTo = false ∧
      (∀ b ∈ s.aliases, b.name < a.name → c.contains b.refersTo = true) ∧
      s.apply c = .error (.unknownName a.refersTo)) ∧
    ((∀ a ∈ s.aliases, c.contains a.refersTo = true) → ∀ e, s.apply c = .error e →
      ∃ names, e = .clash (.duplicate K.label names) ∧ Sorted.Increasing id names ∧
        ∀ k, k ∈ names ↔
          ∃ a ∈ s.aliases, a.isPlain = false ∧ c.contains a.name = true ∧ a.name.chars = k) := by
  refine ⟨⟨fun ⟨d, h⟩ => ?_, fun ⟨hdeclared, hfree⟩ => ?_⟩, fun ⟨a, ha, hmissing⟩ => ?_,
    fun hdeclared e he => ?_⟩
  · exact ⟨declared_of_apply h, fun a ha hplain => not_contains_of_not_plain h ha hplain⟩
  · refine (exists_apply_iff_of_declared hdeclared).mpr fun a ⟨ha, hplain, hcontains⟩ => ?_
    rw [hfree a ha hplain] at hcontains
    contradiction
  · refine error_of_not_declared fun hdeclared => ?_
    rw [hdeclared a ha] at hmissing
    contradiction
  · obtain ⟨names, hnames, hincreasing, hmem⟩ := error_of_declared hdeclared he
    refine ⟨names, hnames, hincreasing, fun k => ?_⟩
    simp only [hmem, Takes, and_assoc]

end AliasSet

end PluginForms
