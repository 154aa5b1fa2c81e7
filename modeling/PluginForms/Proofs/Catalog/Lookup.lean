import Mathlib.Data.List.Count
import Mathlib.Data.List.Nodup
import PluginForms.Catalog.Basic
import PluginForms.Proofs.Text.Sorted

/-!
Catalogs by their members: what a look-up finds, and what is in a catalog that was
made from a list.
-/

namespace PluginForms

theorem Name.chars_injective {K : Kind} : Function.Injective (Name.chars (K := K)) :=
  fun _ _ => Name.ext_chars

namespace Catalog

variable {K : Kind} {c : Catalog K} {l l' : Listing K} {n : Name K}

theorem eq_of_name_eq (h : l ∈ c.listings) (h' : l' ∈ c.listings) (hname : l.name = l'.name) :
    l = l' :=
  c.increasing.eq_of_key_eq h h' (congrArg Name.chars hname)

theorem find?_eq_some_iff : c.find? n = some l ↔ l ∈ c.listings ∧ l.name = n := by
  constructor
  · intro h
    have hname := List.find?_some h
    exact ⟨List.mem_of_find?_eq_some h, beq_iff_eq.mp hname⟩
  · rintro ⟨hmem, rfl⟩
    cases hfind : c.find? l.name with
    | none =>
        have := List.find?_eq_none.mp hfind l hmem
        simp at this
    | some l' =>
        have hname := List.find?_some hfind
        rw [eq_of_name_eq (List.mem_of_find?_eq_some hfind) hmem (beq_iff_eq.mp hname)]

theorem contains_iff : c.contains n = true ↔ ∃ l ∈ c.listings, l.name = n := by
  rw [contains, Option.isSome_iff_exists]
  constructor
  · rintro ⟨l, hl⟩
    exact ⟨l, find?_eq_some_iff.mp hl⟩
  · rintro ⟨l, hl⟩
    exact ⟨l, find?_eq_some_iff.mpr hl⟩

theorem contains_iff_mem_names : c.contains n = true ↔ n ∈ c.names := by
  rw [contains_iff, names, List.mem_map]

theorem mem_of_ofListings {ls : List (Listing K)} (h : ofListings ls = .ok c) :
    l ∈ c.listings ↔ l ∈ ls := by
  unfold ofListings at h
  split at h
  · rename_i hrepeated
    cases h
    exact Sorted.mem_ofList_iff (Sorted.repeated_eq_nil_iff.mp hrepeated)
  · contradiction

theorem eq_of_listings {c d : Catalog K} (h : c.listings = d.listings) : c = d := by
  cases c
  cases d
  cases h
  rfl

/-- A catalog is known by its listings, in whatever order they are thought of. -/
theorem eq_of_mem_iff {c d : Catalog K} (h : ∀ l, l ∈ c.listings ↔ l ∈ d.listings) : c = d :=
  eq_of_listings (c.increasing.eq_of_mem_iff d.increasing h)

/-- A catalog is known by what is found in it. -/
theorem eq_of_find?_eq {c d : Catalog K} (h : ∀ n, c.find? n = d.find? n) : c = d := by
  refine eq_of_mem_iff fun l => ?_
  have hmem (c : Catalog K) : l ∈ c.listings ↔ c.find? l.name = some l := by
    rw [find?_eq_some_iff, and_iff_left rfl]
  rw [hmem c, hmem d, h]

/-- The listings of a catalog make that catalog. -/
theorem ofListings_listings (c : Catalog K) : ofListings c.listings = .ok c := by
  rw [ofListings, c.increasing.repeated_eq_nil]
  exact congrArg Except.ok (eq_of_listings c.increasing.ofList_eq)

/-- A list makes a catalog if and only if no two of its listings have one name. -/
theorem exists_ofListings_iff {ls : List (Listing K)} :
    (∃ c, ofListings ls = .ok c) ↔ (ls.map (·.name)).Nodup := by
  have hkeys : ls.map Listing.key = (ls.map (·.name)).map (·.chars) := by
    rw [List.map_map]
    rfl
  rw [← List.nodup_map_iff Name.chars_injective, ← hkeys, ← Sorted.repeated_eq_nil_iff]
  constructor
  · rintro ⟨c, h⟩
    rw [ofListings] at h
    split at h
    · assumption
    · contradiction
  · intro h
    rw [ofListings, h]
    exact ⟨_, rfl⟩

theorem mem_repeated_names_iff {ls : List (Listing K)} {k : Text} :
    k ∈ Sorted.repeated Listing.key ls ↔
      ∃ n : Name K, 1 < (ls.map (·.name)).count n ∧ n.chars = k := by
  have hkeys : ls.map Listing.key = (ls.map (·.name)).map (·.chars) := by
    rw [List.map_map]
    rfl
  have hcount (n : Name K) : (ls.map Listing.key).count n.chars = (ls.map (·.name)).count n := by
    rw [hkeys]
    exact List.count_map_of_injective _ _ Name.chars_injective n
  rw [Sorted.mem_repeated_iff]
  constructor
  · intro hrepeated
    have hmem := List.count_pos_iff.mp (Nat.lt_of_succ_lt hrepeated)
    rw [hkeys] at hmem
    obtain ⟨n, -, rfl⟩ := List.mem_map.mp hmem
    exact ⟨n, hcount n ▸ hrepeated, rfl⟩
  · rintro ⟨n, hrepeated, rfl⟩
    rwa [hcount n]

/-- A list that makes no catalog is refused for the names that two of its listings have, each
named once and in order. -/
theorem error_of_ofListings {ls : List (Listing K)} {e : PluginError}
    (h : ofListings ls = .error e) : ∃ names, e = .clash (.duplicate K.label names) ∧
      Sorted.Increasing id names ∧
      ∀ k, k ∈ names ↔ ∃ n : Name K, 1 < (ls.map (·.name)).count n ∧ n.chars = k := by
  rw [ofListings] at h
  split at h
  · contradiction
  · refine ⟨_, (Except.error.inj h).symm, Sorted.increasing_ofList id _, fun k => ?_⟩
    rw [← mem_repeated_names_iff]
    exact Sorted.mem_texts_iff

/-- The order of the listings does not matter, neither for the catalog nor for the error. -/
theorem ofListings_perm {ls ls' : List (Listing K)} (h : ls.Perm ls') :
    ofListings ls' = ofListings ls := by
  rw [ofListings, ofListings, Sorted.repeated_perm h]
  split
  · rename_i hrepeated
    have hdistinct := Sorted.repeated_eq_nil_iff.mp hrepeated
    have hdistinct' := (h.map Listing.key).nodup_iff.mp hdistinct
    refine congrArg Except.ok (eq_of_listings ?_)
    have hincreasing (ls : List (Listing K)) := Sorted.increasing_ofList Listing.key ls
    refine (hincreasing ls').eq_of_mem_iff (hincreasing ls) fun l => ?_
    rw [Sorted.mem_ofList_iff hdistinct, Sorted.mem_ofList_iff hdistinct', h.mem_iff]
  · rfl

theorem names_nodup (c : Catalog K) : c.names.Nodup :=
  exists_ofListings_iff.mp ⟨c, ofListings_listings c⟩

theorem mem_of_union {a b : Catalog K} (h : a.union b = .ok c) (hl : l ∈ c.listings) :
    l ∈ a.listings ∨ l ∈ b.listings := by
  rw [union] at h
  dsimp only at h
  split at h
  · cases h
    rcases List.mem_append.mp (Sorted.mem_of_mem_ofList hl) with hl | hl
    · exact .inl hl
    · exact .inr (List.mem_filter.mp hl).1
  · contradiction

theorem contains_of_ofListings {ls : List (Listing K)} (h : ofListings ls = .ok c) :
    c.contains n = true ↔ n ∈ ls.map (·.name) := by
  rw [contains_iff, List.mem_map]
  simp only [mem_of_ofListings h]

/-! ### The first listing with a property -/

/-- The listing has the property, and no other one that has it has a name before. -/
def Foremost (c : Catalog K) (P : Listing K → Prop) (l : Listing K) : Prop :=
  l ∈ c.listings ∧ P l ∧ ∀ k ∈ c.listings, P k → k = l ∨ l.name < k.name

/-- Some listing has the url. -/
def HasUrl (c : Catalog K) (u : ListedUrl) : Prop := ∃ l ∈ c.listings, l.url = u

variable {u : ListedUrl}

theorem find?_listings_eq_some_iff {p : Listing K → Bool} :
    c.listings.find? p = some l ↔ c.Foremost (p · = true) l :=
  c.increasing.find?_eq_some_iff

theorem exists_foremost {P : Listing K → Prop} [DecidablePred P] (h : ∃ l ∈ c.listings, P l) :
    ∃ l, c.Foremost P l := by
  obtain ⟨k, hk, hP⟩ := h
  have hsome : (c.listings.find? fun l => decide (P l)).isSome = true :=
    List.find?_isSome.mpr ⟨k, hk, decide_eq_true hP⟩
  obtain ⟨l, hl⟩ := Option.isSome_iff_exists.mp hsome
  have hforemost := find?_listings_eq_some_iff.mp hl
  simp only [Foremost, decide_eq_true_eq] at hforemost
  exact ⟨l, hforemost⟩

theorem withUrl?_eq_some_iff : c.withUrl? u = some l ↔ c.Foremost (·.url = u) l := by
  rw [withUrl?, find?_listings_eq_some_iff]
  simp only [Foremost, beq_iff_eq]

theorem withUrl?_eq_none_iff : c.withUrl? u = none ↔ ¬ c.HasUrl u := by
  rw [withUrl?, List.find?_eq_none, HasUrl]
  simp only [beq_iff_eq, not_exists, not_and]

end Catalog

end PluginForms
