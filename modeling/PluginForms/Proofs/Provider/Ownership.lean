import PluginForms.Proofs.Catalog.Lookup
import PluginForms.Provider.Basic

/-!
Who owns a name when providers are put side by side. The names are noted one after the other with
the places of their providers, and a place that is noted later takes the place of an earlier one.
If no name is noted twice, the place of a name is that of the first provider that lists it, for it
is the only one; and a name is noted twice just if the listings of all providers have it twice.
-/

namespace PluginForms

variable {K : Kind}

namespace Ownership

/-- What was noted, after the pairs of `noted` in this order. -/
structure Tracks (o : Ownership K) (noted : List (Name K × Nat)) : Prop where
  owned : ∀ n, (o.place? n).isSome = true ↔ n ∈ noted.map (·.1)
  latest : ∀ n place, o.place? n = some place → ∃ before after,
    noted = before ++ (n, place) :: after ∧ n ∉ after.map (·.1)
  repeated : ∀ n, n ∈ o.repeated ↔ 1 < (noted.map (·.1)).count n

theorem tracks_nil : Tracks ({} : Ownership K) [] where
  owned n := by simp
  latest n place h := by contradiction
  repeated n := by simp

theorem place?_enter (o : Ownership K) (place : Nat) (n k : Name K) :
    (o.enter place n).place? k = if k = n then some place else o.place? k := rfl

theorem mem_repeated_enter_iff {o : Ownership K} {place : Nat} {n k : Name K} :
    k ∈ (o.enter place n).repeated ↔ k ∈ o.repeated ∨ k = n ∧ (o.place? n).isSome = true := by
  rw [enter]
  split <;> simp [*]

theorem Tracks.enter {o : Ownership K} {noted : List (Name K × Nat)} (h : o.Tracks noted)
    (n : Name K) (place : Nat) : (o.enter place n).Tracks (noted ++ [(n, place)]) where
  owned k := by
    rw [place?_enter, List.map_append, List.mem_append, ← h.owned k]
    by_cases hk : k = n <;> simp [hk]
  latest k p hp := by
    rw [place?_enter] at hp
    by_cases hk : k = n
    · rw [if_pos hk] at hp
      obtain rfl := Option.some.inj hp
      exact ⟨noted, [], by rw [hk], List.not_mem_nil⟩
    · rw [if_neg hk] at hp
      obtain ⟨before, after, rfl, hafter⟩ := h.latest k p hp
      refine ⟨before, after ++ [(n, place)], by simp, ?_⟩
      simp [hafter, hk]
  repeated k := by
    rw [mem_repeated_enter_iff, h.repeated, h.owned, ← List.count_pos_iff, List.map_append,
      List.count_append, List.map_singleton, List.count_singleton]
    by_cases hk : n = k
    · subst hk
      simp only [beq_self_eq_true, if_true, true_and]
      omega
    · simp [hk, Ne.symm hk]

theorem Tracks.foldl_enter {o : Ownership K} {noted : List (Name K × Nat)} (h : o.Tracks noted)
    (names : List (Name K)) (place : Nat) :
    (names.foldl (Ownership.enter place) o).Tracks (noted ++ names.map (·, place)) := by
  induction names generalizing o noted with
  | nil => simpa using h
  | cons n names ih =>
      rw [List.foldl_cons, List.map_cons, List.append_cons]
      exact ih (h.enter n place)

/-- The names of all catalogs with the places of their catalogs, which are counted from `first`. -/
def placed (catalogs : List (Catalog K)) (first : Nat) : List (Name K × Nat) :=
  (catalogs.zipIdx first).flatMap fun c => c.1.names.map (·, c.2)

theorem tracks_ofCatalogs (catalogs : List (Catalog K)) :
    (ofCatalogs catalogs).Tracks (placed catalogs 0) := by
  have hfrom : ∀ (o : Ownership K) noted first, o.Tracks noted →
      ((catalogs.zipIdx first).foldl (fun o c => c.1.names.foldl (enter c.2) o) o).Tracks
        (noted ++ placed catalogs first) := by
    induction catalogs with
    | nil => exact fun o noted first h => by simpa [placed] using h
    | cons c catalogs ih =>
        intro o noted first h
        rw [placed, List.zipIdx_cons, List.foldl_cons, List.flatMap_cons, ← List.append_assoc]
        exact ih _ _ (first + 1) (h.foldl_enter c.names first)
  exact hfrom {} [] 0 tracks_nil

theorem mem_placed_iff {catalogs : List (Catalog K)} {n : Name K} {place : Nat} :
    (n, place) ∈ placed catalogs 0 ↔ ∃ c, catalogs[place]? = some c ∧ n ∈ c.names := by
  simp only [placed, List.mem_flatMap, List.mem_map, Prod.exists, Prod.mk.injEq,
    List.mem_zipIdx_iff_getElem?]
  constructor
  · rintro ⟨c, i, hc, m, hm, rfl, rfl⟩
    exact ⟨c, hc, hm⟩
  · rintro ⟨c, hc, hn⟩
    exact ⟨c, place, hc, n, hn, rfl, rfl⟩

theorem map_fst_placed (catalogs : List (Catalog K)) (first : Nat) :
    (placed catalogs first).map (·.1) = (catalogs.flatMap (·.listings)).map (·.name) := by
  induction catalogs generalizing first with
  | nil => rfl
  | cons c catalogs ih =>
      have hrest := ih (first + 1)
      rw [placed] at hrest
      rw [placed, List.zipIdx_cons, List.flatMap_cons, List.map_append, hrest, List.flatMap_cons,
        List.map_append, List.map_map]
      exact congrArg (· ++ _) (List.map_id _)

end Ownership

namespace Provider

open Ownership

variable {ε α : Type} {ps : List (Provider K ε α)} {n : Name K}

theorem map_fst_placed_infos (ps : List (Provider K ε α)) :
    (placed (ps.map (·.infos)) 0).map (·.1) = (ps.flatMap (·.infos.listings)).map (·.name) := by
  rw [map_fst_placed, List.flatMap_map]

theorem mem_repeated_iff : n ∈ (ofCatalogs (ps.map (·.infos))).repeated ↔
    1 < ((ps.flatMap (·.infos.listings)).map (·.name)).count n := by
  rw [(tracks_ofCatalogs _).repeated, map_fst_placed_infos]

/-- Where no name is noted twice, the place of a name is that of the first provider with it. -/
theorem place?_bind_getElem? (h : ((ps.flatMap (·.infos.listings)).map (·.name)).Nodup)
    (n : Name K) : ((ofCatalogs (ps.map (·.infos))).place? n).bind (ps[·]?) =
      ps.find? fun p => p.infos.contains n := by
  have htracks := tracks_ofCatalogs (ps.map (·.infos))
  rw [← map_fst_placed_infos] at h
  cases hfind : ps.find? fun p => p.infos.contains n with
  | none =>
      have hunowned : ¬ ((ofCatalogs (ps.map (·.infos))).place? n).isSome = true := by
        rw [htracks.owned, map_fst_placed_infos, List.map_flatMap, List.mem_flatMap]
        rintro ⟨p, hp, hn⟩
        exact List.find?_eq_none.mp hfind p hp (Catalog.contains_iff_mem_names.mpr hn)
      rw [Option.not_isSome_iff_eq_none.mp hunowned, Option.bind_none]
  | some p =>
      obtain ⟨hn, before, after, rfl, -⟩ := List.find?_eq_some_iff_append.mp hfind
      have hplaced : (n, before.length) ∈ placed ((before ++ p :: after).map (·.infos)) 0 := by
        refine mem_placed_iff.mpr ⟨p.infos, ?_, Catalog.contains_iff_mem_names.mp hn⟩
        simp
      have howned := (htracks.owned n).mpr (List.mem_map_of_mem (f := (·.1)) hplaced)
      obtain ⟨place, hplace⟩ := Option.isSome_iff_exists.mp howned
      obtain ⟨noted, later, hsplit, -⟩ := htracks.latest n place hplace
      have hlatest : (n, place) ∈ placed ((before ++ p :: after).map (·.infos)) 0 := by
        rw [hsplit]
        exact List.mem_append_right _ List.mem_cons_self
      obtain rfl : place = before.length :=
        congrArg Prod.snd (List.inj_on_of_nodup_map h hlatest hplaced rfl)
      rw [hplace, Option.bind_some]
      simp

/-- What comes of the places, told by who lists a name first. -/
theorem collect_eq (ps : List (Provider K ε α)) : collect ps =
    (Catalog.ofListings (ps.flatMap (·.infos.listings))).map fun infos =>
      ofResolver infos fun n values =>
        (ps.find? fun p => p.infos.contains n).elim (unknown n) (·.plugin n values) := by
  have hrepeated (n : Name K) : n ∈ (ofCatalogs (ps.map (·.infos))).repeated ↔
      1 < ((ps.flatMap (·.infos.listings)).map (·.name)).count n := mem_repeated_iff
  rw [collect]
  split
  · rename_i hnone
    have hdistinct : ((ps.flatMap (·.infos.listings)).map (·.name)).Nodup := by
      refine List.nodup_iff_count_le_one.mpr fun n => Nat.not_lt.mp fun hn => ?_
      rw [← hrepeated, hnone] at hn
      contradiction
    obtain ⟨infos, hinfos⟩ := Catalog.exists_ofListings_iff.mpr hdistinct
    rw [hinfos]
    refine congrArg (fun plugin => Except.ok (ofResolver infos plugin)) ?_
    funext n values
    rw [place?_bind_getElem? hdistinct]
    cases ps.find? fun p => p.infos.contains n <;> rfl
  · rename_i names hnames
    cases hinfos : Catalog.ofListings (ps.flatMap (·.infos.listings)) with
    | ok infos =>
        have hdistinct := Catalog.exists_ofListings_iff.mp ⟨infos, hinfos⟩
        obtain ⟨n, rest, hsome⟩ := List.exists_cons_of_ne_nil hnames
        have hn := (hrepeated n).mp (by rw [hsome]; exact List.mem_cons_self)
        exact absurd (List.nodup_iff_count_le_one.mp hdistinct n) (Nat.not_le.mpr hn)
    | error e =>
        obtain ⟨texts, rfl, hincreasing, hmem⟩ := Catalog.error_of_ofListings hinfos
        have htexts : Sorted.texts ((ofCatalogs (ps.map (·.infos))).repeated.map (·.chars)) =
            texts := by
          have hsorted (l : List Text) : Sorted.Increasing id (Sorted.texts l) :=
            Sorted.increasing_ofList id l
          refine (hsorted _).eq_of_mem_iff hincreasing fun t => ?_
          rw [Sorted.mem_texts_iff, List.mem_map, hmem]
          simp only [hrepeated]
        rw [duplicateNames, htexts]
        rfl

end Provider

end PluginForms
