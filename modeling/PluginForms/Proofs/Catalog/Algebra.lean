import Mathlib.Data.Finset.Card
import Mathlib.Data.Set.Function
import PluginForms.Proofs.Catalog.Lookup
import PluginForms.Proofs.Plugin.Success

/-!
Catalogs joined and renamed. A catalog is known by its listings, and both operations are
described by them: a union is whatever catalog has the listings of both sides, a renaming
whatever catalog has the listings under their new names. There is none just if two listings
would meet under one name, and then the names where they do are reported. Order and grouping
of several unions or renamings do not matter, since they do not matter for the listings.
-/

namespace PluginForms

variable {K : Kind}

theorem Listing.eq_of_parts_eq {l k : Listing K} (hname : l.name = k.name) (hurl : l.url = k.url) :
    l = k := by
  cases l
  cases k
  cases hname
  cases hurl
  rfl

/-- What a function repeats on a list without repeats, it takes from two different places. -/
theorem one_lt_count_map_iff {α β : Type} [DecidableEq α] [DecidableEq β] {f : α → β} {l : List α}
    (h : l.Nodup) {y : β} :
    1 < (l.map f).count y ↔ ∃ x ∈ l, ∃ x' ∈ l, x ≠ x' ∧ f x = y ∧ f x' = y := by
  have hcount : (l.map f).count y = (l.filter fun x => f x == y).toFinset.card := by
    rw [List.toFinset_card_of_nodup (h.filter _), List.count, List.countP_map,
      List.countP_eq_length_filter]
    rfl
  rw [hcount, Finset.one_lt_card]
  simp only [List.mem_toFinset, List.mem_filter, beq_iff_eq]
  constructor
  · rintro ⟨x, ⟨hx, hfx⟩, x', ⟨hx', hfx'⟩, hne⟩
    exact ⟨x, hx, x', hx', hne, hfx, hfx'⟩
  · rintro ⟨x, hx, x', hx', hne, hfx, hfx'⟩
    exact ⟨x, ⟨hx, hfx⟩, x', ⟨hx', hfx'⟩, hne⟩

namespace Catalog

variable {a b c d s : Catalog K} {l : Listing K} {e : PluginError}

/-! ### Unions -/

/-- Both list the name, with different urls. -/
def Conflict (a b : Catalog K) (n : Name K) : Prop :=
  ∃ l ∈ a.listings, ∃ k ∈ b.listings, l.name = n ∧ k.name = n ∧ l.url ≠ k.url

theorem conflict_comm {n : Name K} : a.Conflict b n ↔ b.Conflict a n := by
  constructor <;>
  · rintro ⟨l, hl, k, hk, hln, hkn, hne⟩
    exact ⟨k, hk, l, hl, hkn, hln, hne.symm⟩

/-- The listings of `b` that a union with `a` refuses. -/
theorem mem_refused_iff :
    l ∈ b.listings.filter (fun l => (a.find? l.name).any fun k => k.url != l.url) ↔
      l ∈ b.listings ∧ ∃ k ∈ a.listings, k.name = l.name ∧ k.url ≠ l.url := by
  rw [List.mem_filter, Option.any_eq_true]
  simp only [find?_eq_some_iff, bne_iff_ne, and_assoc]

theorem mem_refused_names_iff {t : Text} :
    t ∈ (b.listings.filter fun l => (a.find? l.name).any fun k => k.url != l.url).map
      (·.name.chars) ↔ ∃ n, a.Conflict b n ∧ n.chars = t := by
  rw [List.mem_map]
  constructor
  · rintro ⟨k, hk, rfl⟩
    obtain ⟨hk, l, hl, hname, hurl⟩ := mem_refused_iff.mp hk
    exact ⟨k.name, ⟨l, hl, k, hk, hname, rfl, hurl⟩, rfl⟩
  · rintro ⟨n, ⟨l, hl, k, hk, hln, rfl, hurl⟩, rfl⟩
    exact ⟨k, mem_refused_iff.mpr ⟨hk, l, hl, hln, hurl⟩, rfl⟩

theorem error_of_union (h : a.union b = .error e) : ∃ names,
    e = .clash (.duplicate K.label names) ∧ Sorted.Increasing id names ∧ names ≠ [] ∧
      ∀ t, t ∈ names ↔ ∃ n, a.Conflict b n ∧ n.chars = t := by
  rw [union] at h
  dsimp only at h
  split at h
  · contradiction
  · rename_i hsome
    refine ⟨_, (Except.error.inj h).symm, Sorted.increasing_ofList id _, ?_, fun t => ?_⟩
    · rw [ne_eq, Sorted.texts, Sorted.ofList_eq_nil_iff, List.map_eq_nil_iff]
      exact hsome
    · rw [Sorted.mem_texts_iff, mem_refused_names_iff]

/-- What is added to `a` has names that `a` does not list. -/
theorem joined_keys_nodup (a b : Catalog K) : ((a.listings ++
    b.listings.filter fun l => !a.contains l.name).map Listing.key).Nodup := by
  rw [List.map_append, List.nodup_append]
  refine ⟨a.increasing.keys_nodup, (b.increasing.filter _).keys_nodup, ?_⟩
  rintro t ht _ ht' rfl
  obtain ⟨l, hl, rfl⟩ := List.mem_map.mp ht
  obtain ⟨k, hk, hkey⟩ := List.mem_map.mp ht'
  obtain ⟨-, hnew⟩ := List.mem_filter.mp hk
  rw [contains_iff.mpr ⟨l, hl, Name.ext_chars hkey.symm⟩] at hnew
  contradiction

theorem mem_union_iff (h : a.union b = .ok c) :
    l ∈ c.listings ↔ l ∈ a.listings ∨ l ∈ b.listings := by
  refine ⟨mem_of_union h, fun hl => ?_⟩
  rw [union] at h
  dsimp only at h
  split at h
  · rename_i hnone
    cases h
    rw [Sorted.mem_ofList_iff (joined_keys_nodup a b), List.mem_append, List.mem_filter]
    refine hl.elim .inl fun hl => ?_
    cases hlisted : a.contains l.name with
    | false => exact .inr ⟨hl, rfl⟩
    | true =>
        -- the listing of that name in `a` is not refused, so it is the same one
        obtain ⟨k, hk, hname⟩ := contains_iff.mp hlisted
        have hurl : k.url = l.url := by
          refine Decidable.byContradiction fun hne => ?_
          have hrefused := mem_refused_iff.mpr ⟨hl, k, hk, hname, hne⟩
          rw [hnone] at hrefused
          contradiction
        obtain rfl : k = l := Listing.eq_of_parts_eq hname hurl
        exact .inl hk
  · contradiction

/-- A catalog that has the listings of both has one url for a name. -/
theorem not_conflict_of_mem (h : ∀ l, l ∈ a.listings ∨ l ∈ b.listings → l ∈ c.listings)
    (n : Name K) : ¬ a.Conflict b n := by
  rintro ⟨l, hl, k, hk, rfl, hname, hurl⟩
  have hsame : l = k := eq_of_name_eq (h l (.inl hl)) (h k (.inr hk)) hname.symm
  exact hurl (congrArg Listing.url hsame)

theorem exists_union_iff : (∃ c, a.union b = .ok c) ↔ ∀ n, ¬ a.Conflict b n := by
  constructor
  · rintro ⟨c, h⟩
    exact not_conflict_of_mem fun l => (mem_union_iff h).mpr
  · intro hnone
    cases h : a.union b with
    | ok c => exact ⟨c, rfl⟩
    | error e =>
        obtain ⟨names, -, -, hne, hnames⟩ := error_of_union h
        obtain ⟨t, ht⟩ := List.exists_mem_of_ne_nil names hne
        obtain ⟨n, hn, -⟩ := (hnames t).mp ht
        exact absurd hn (hnone n)

/-- A union is whatever catalog has the listings of both. -/
theorem union_eq_ok_iff :
    a.union b = .ok c ↔ ∀ l, l ∈ c.listings ↔ l ∈ a.listings ∨ l ∈ b.listings := by
  refine ⟨fun h l => mem_union_iff h, fun hmem => ?_⟩
  obtain ⟨d, hd⟩ := exists_union_iff.mpr (not_conflict_of_mem fun l => (hmem l).mpr)
  rw [hd, Except.ok.injEq]
  refine eq_of_mem_iff fun l => ?_
  rw [mem_union_iff hd, hmem]

theorem union_comm (a b : Catalog K) : b.union a = a.union b := by
  cases hab : a.union b with
  | ok c =>
      rw [union_eq_ok_iff] at hab ⊢
      exact fun l => (hab l).trans or_comm
  | error e =>
      cases hba : b.union a with
      | ok c =>
          have hok : a.union b = .ok c :=
            union_eq_ok_iff.mpr fun l => (mem_union_iff hba).trans or_comm
          rw [hok] at hab
          contradiction
      | error e' =>
          obtain ⟨names, rfl, hincreasing, -, hnames⟩ := error_of_union hab
          obtain ⟨names', rfl, hincreasing', -, hnames'⟩ := error_of_union hba
          have hsame : names' = names := by
            refine hincreasing'.eq_of_mem_iff hincreasing fun t => ?_
            simp only [hnames, hnames', conflict_comm]
          rw [hsame]

theorem union_self (a : Catalog K) : a.union a = .ok a :=
  union_eq_ok_iff.mpr fun _ => or_self_iff.symm

/-- The union of three, taken from the left. -/
theorem union_union_eq_ok_iff : (a.union b >>= fun ab => ab.union c) = .ok d ↔
    ∀ l, l ∈ d.listings ↔ l ∈ a.listings ∨ l ∈ b.listings ∨ l ∈ c.listings := by
  simp only [ok_bind_iff, union_eq_ok_iff]
  constructor
  · rintro ⟨ab, hab, hd⟩ l
    rw [hd, hab, or_assoc]
  · intro hd
    let ab := d.filter fun l => decide (l ∈ a.listings ∨ l ∈ b.listings)
    have hab : ∀ l, l ∈ ab.listings ↔ l ∈ a.listings ∨ l ∈ b.listings := by
      intro l
      rw [show l ∈ ab.listings ↔ _ from List.mem_filter, decide_eq_true_eq, hd]
      tauto
    refine ⟨ab, hab, fun l => ?_⟩
    rw [hab, hd, or_assoc]

theorem union_assoc : (a.union b >>= fun ab => ab.union c) = .ok d ↔
    (b.union c >>= fun bc => a.union bc) = .ok d := by
  have hswap : (b.union c >>= fun bc => a.union bc) = b.union c >>= fun bc => bc.union a :=
    congrArg (b.union c >>= ·) (funext fun bc => union_comm bc a)
  rw [hswap, union_union_eq_ok_iff, union_union_eq_ok_iff]
  exact forall_congr' fun l => iff_congr Iff.rfl or_rotate

/-- Two catalogs have a union just if the names in both have one url, and it has the listings of
both; otherwise exactly the names with different urls are reported, each once and in order. The
order of the two does not matter, for the error either, a catalog joined with itself is that
catalog, and of three it does not matter which two are joined first. -/
theorem union_is_partial_join (a b c : Catalog K) :
    ((∃ d, a.union b = .ok d) ↔
      ∀ l ∈ a.listings, ∀ k ∈ b.listings, l.name = k.name → l.url = k.url) ∧
    (∀ d, a.union b = .ok d → ∀ l, l ∈ d.listings ↔ l ∈ a.listings ∨ l ∈ b.listings) ∧
    (∀ e, a.union b = .error e → ∃ names, e = .clash (.duplicate K.label names) ∧
      Sorted.Increasing id names ∧ ∀ t, t ∈ names ↔ ∃ n, a.Conflict b n ∧ n.chars = t) ∧
    b.union a = a.union b ∧ a.union a = .ok a ∧
    ∀ d, (a.union b >>= fun ab => ab.union c) = .ok d ↔
      (b.union c >>= fun bc => a.union bc) = .ok d := by
  refine ⟨?exists_iff, fun d h l => mem_union_iff h, fun e h => ?error, union_comm a b,
    union_self a, fun d => union_assoc⟩
  case exists_iff =>
    rw [exists_union_iff]
    constructor
    · intro hnone l hl k hk hname
      exact Decidable.byContradiction fun hurl => hnone k.name ⟨l, hl, k, hk, hname, rfl, hurl⟩
    · rintro hsame n ⟨l, hl, k, hk, rfl, hname, hurl⟩
      exact hurl (hsame l hl k hk hname.symm)
  case error =>
    obtain ⟨names, he, hincreasing, -, hnames⟩ := error_of_union h
    exact ⟨names, he, hincreasing, hnames⟩

/-! ### Renamings -/

variable {f g : Name K → Name K}

theorem names_renamed (s : Catalog K) (f : Name K → Name K) :
    (s.listings.map fun l => l.rename (f l.name)).map (·.name) = s.names.map f := by
  rw [names, List.map_map, List.map_map]
  rfl

theorem exists_rename_iff : (∃ d, s.rename f = .ok d) ↔ Set.InjOn f {n | n ∈ s.names} := by
  rw [rename, exists_ofListings_iff, names_renamed, List.nodup_map_iff_inj_on s.names_nodup]
  rfl

theorem mem_rename_iff (h : s.rename f = .ok d) :
    l ∈ d.listings ↔ ∃ k ∈ s.listings, l.name = f k.name ∧ l.url = k.url := by
  rw [mem_of_ofListings h, List.mem_map]
  refine exists_congr fun k => and_congr_right fun _ => ?_
  constructor
  · rintro rfl
    exact ⟨rfl, rfl⟩
  · rintro ⟨hname, hurl⟩
    exact Listing.eq_of_parts_eq hname.symm hurl.symm

/-- A renaming is whatever catalog has the listings under their new names, if these are
different. -/
theorem rename_eq_ok_iff : s.rename f = .ok d ↔ Set.InjOn f {n | n ∈ s.names} ∧
    ∀ l, l ∈ d.listings ↔ ∃ k ∈ s.listings, l.name = f k.name ∧ l.url = k.url := by
  refine ⟨fun h => ⟨exists_rename_iff.mp ⟨d, h⟩, fun l => mem_rename_iff h⟩, ?_⟩
  rintro ⟨hinj, hmem⟩
  obtain ⟨d', hd'⟩ := exists_rename_iff.mpr hinj
  rw [hd', Except.ok.injEq]
  refine eq_of_mem_iff fun l => ?_
  rw [mem_rename_iff hd', hmem]

theorem names_of_rename (h : s.rename f = .ok d) :
    {n | n ∈ d.names} = f '' {n | n ∈ s.names} := by
  ext n
  rw [Set.mem_image, Set.mem_ofPred_eq, ← contains_iff_mem_names, contains_of_ofListings h,
    names_renamed, List.mem_map]
  rfl

/-- Two of the names are sent to this one. -/
def Collision (s : Catalog K) (f : Name K → Name K) (n : Name K) : Prop :=
  ∃ m ∈ s.names, ∃ m' ∈ s.names, m ≠ m' ∧ f m = n ∧ f m' = n

theorem error_of_rename (h : s.rename f = .error e) : ∃ names,
    e = .clash (.duplicate K.label names) ∧ Sorted.Increasing id names ∧
      ∀ t, t ∈ names ↔ ∃ n, s.Collision f n ∧ n.chars = t := by
  obtain ⟨names, he, hincreasing, hnames⟩ := error_of_ofListings h
  refine ⟨names, he, hincreasing, fun t => (hnames t).trans ?_⟩
  refine exists_congr fun n => and_congr_left fun _ => ?_
  rw [names_renamed, one_lt_count_map_iff s.names_nodup]
  rfl

/-- A listing of a renaming, renamed again, is a listing that was renamed by both. -/
theorem exists_renamed_iff {r : Catalog K} (hr : s.rename f = .ok r) :
    (∃ k ∈ r.listings, l.name = g k.name ∧ l.url = k.url) ↔
      ∃ k ∈ s.listings, l.name = (g ∘ f) k.name ∧ l.url = k.url := by
  constructor
  · rintro ⟨k, hk, hname, hurl⟩
    obtain ⟨k', hk', hname', hurl'⟩ := (mem_rename_iff hr).mp hk
    exact ⟨k', hk', hname.trans (congrArg g hname'), hurl.trans hurl'⟩
  · rintro ⟨k, hk, hname, hurl⟩
    exact ⟨k.rename (f k.name), (mem_rename_iff hr).mpr ⟨k, hk, rfl, rfl⟩, hname, hurl⟩

theorem rename_rename : (s.rename f >>= fun r => r.rename g) = .ok d ↔
    s.rename (g ∘ f) = .ok d := by
  rw [ok_bind_iff]
  constructor
  · rintro ⟨r, hr, hd⟩
    obtain ⟨hg, hmem⟩ := rename_eq_ok_iff.mp hd
    rw [names_of_rename hr] at hg
    have hgf := hg.comp (exists_rename_iff.mp ⟨r, hr⟩) (Set.mapsTo_image f _)
    exact rename_eq_ok_iff.mpr ⟨hgf, fun l => (hmem l).trans (exists_renamed_iff hr)⟩
  · intro hd
    obtain ⟨hgf, hmem⟩ := rename_eq_ok_iff.mp hd
    obtain ⟨r, hr⟩ := exists_rename_iff.mpr hgf.of_comp
    have hg := hgf.image_of_comp
    rw [← names_of_rename hr] at hg
    exact ⟨r, hr, rename_eq_ok_iff.mpr ⟨hg, fun l => (hmem l).trans (exists_renamed_iff hr).symm⟩⟩

/-- A renaming is possible just if no two names of the catalog are sent to one, and it has the
listings under their new names, with their urls; otherwise exactly the names that two or more
are sent to are reported, each once and in order. Two renamings after one another are the
renaming by both. -/
theorem renamings_fail_on_collisions_and_compose (s : Catalog K) (f g : Name K → Name K) :
    ((∃ d, s.rename f = .ok d) ↔ Set.InjOn f {n | n ∈ s.names}) ∧
    (∀ d, s.rename f = .ok d →
      ∀ l, l ∈ d.listings ↔ ∃ k ∈ s.listings, l.name = f k.name ∧ l.url = k.url) ∧
    (∀ e, s.rename f = .error e → ∃ names, e = .clash (.duplicate K.label names) ∧
      Sorted.Increasing id names ∧ ∀ t, t ∈ names ↔ ∃ n, s.Collision f n ∧ n.chars = t) ∧
    ∀ d, (s.rename f >>= fun r => r.rename g) = .ok d ↔ s.rename (g ∘ f) = .ok d :=
  ⟨exists_rename_iff, fun _ h _ => mem_rename_iff h, fun _ h => error_of_rename h,
    fun _ => rename_rename⟩

end Catalog

end PluginForms
