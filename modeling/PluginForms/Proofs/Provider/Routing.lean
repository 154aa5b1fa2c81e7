import PluginForms.Proofs.Catalog.Lookup
import PluginForms.Proofs.Plugin.Success
import PluginForms.Provider.Mapping

/-!
Providers that pass names on. Restrictions, mappings and overlays all answer for another
provider in the same way: each name they have is sent to a name which that provider has,
and any other name is unknown. What differs is where the names are sent.
-/

namespace PluginForms

variable {K : Kind} {ε α : Type}

namespace Provider

/-- `q` answers for `p`, with the names that `route` sends somewhere. -/
structure Routes (p q : Provider K ε α) (route : Name K → Option (Name K)) : Prop where
  plugin : ∀ n values, q.plugin n values =
    match route n with
    | some m => p.plugin m values
    | none => unknown n
  select : q.select = Selector.evaluate q.plugin
  contains : ∀ n, q.infos.contains n = (route n).isSome
  target : ∀ n m, route n = some m → p.infos.contains m = true

variable {p q : Provider K ε α}

/-! ### Restrictions -/

theorem restricted_routes {infos : Catalog K}
    (h : ∀ n, infos.contains n = true → p.infos.contains n = true) :
    Routes p (p.restricted infos) fun n => if infos.contains n then some n else none where
  plugin n values := by
    rw [restricted, ofResolver]
    dsimp only
    cases infos.contains n <;> rfl
  select := rfl
  contains n := by
    rw [restricted, ofResolver]
    cases infos.contains n <;> rfl
  target n m hroute := by
    split at hroute
    · rename_i hcontains
      rw [← Option.some.inj hroute]
      exact h n hcontains
    · contradiction

theorem ok_restrict {infos : Catalog K} (h : p.restrict infos = .ok q) :
    q = p.restricted infos ∧ ∀ n, infos.contains n = true → p.infos.contains n = true := by
  rw [restrict] at h
  split at h
  · contradiction
  · rename_i hfind
    cases h
    refine ⟨rfl, fun n hn => ?_⟩
    have hmissing := List.find?_eq_none.mp hfind n (Catalog.contains_iff_mem_names.mp hn)
    simpa using hmissing

/-- Where the routed names are sent is all there is to say of a route. -/
theorem Routes.route_eq {route : Name K → Option (Name K)} (h : Routes p q route)
    {inner : Name K → Name K} (hinner : ∀ n m, route n = some m → inner n = m) :
    route = fun n => if q.infos.contains n then some (inner n) else none := by
  funext n
  have hcontains := h.contains n
  cases hroute : route n with
  | none =>
      rw [hroute] at hcontains
      rw [if_neg (Bool.eq_false_iff.mp hcontains)]
  | some m =>
      rw [hroute, Option.isSome_some] at hcontains
      rw [if_pos hcontains, hinner n m hroute]

end Provider

theorem Catalog.ok_lookUp_iff {c : Catalog K} {names : List (Name K)} {ls : List (Listing K)} :
    c.lookUp names = .ok ls ↔ List.Forall₂ (fun n l => c.find? n = some l) names ls := by
  rw [lookUp, ok_mapM_iff]
  refine ⟨fun h => h.imp fun n l hl => ?_, fun h => h.imp fun n l hl => ?_⟩
  · split at hl
    · rename_i k hk
      rw [hk, Except.ok.inj hl]
    · contradiction
  · rw [hl]

/-- What was looked up is in the catalog, under the names that were asked for. -/
theorem Catalog.names_of_lookUp {c : Catalog K} {names : List (Name K)} {ls : List (Listing K)}
    (h : c.lookUp names = .ok ls) :
    ls.map (·.name) = names ∧ ∀ l ∈ ls, l ∈ c.listings := by
  have hall := ok_lookUp_iff.mp h
  clear h
  induction hall with
  | nil => exact ⟨rfl, fun l hl => absurd hl List.not_mem_nil⟩
  | cons hfind _ ih =>
      obtain ⟨hmem, hname⟩ := Catalog.find?_eq_some_iff.mp hfind
      refine ⟨by rw [List.map_cons, hname, ih.1], fun l hl => ?_⟩
      rcases List.mem_cons.mp hl with rfl | hl
      · exact hmem
      · exact ih.2 l hl

theorem Catalog.exists_lookUp {c : Catalog K} {names : List (Name K)}
    (h : ∀ n ∈ names, c.contains n = true) : ∃ ls, c.lookUp names = .ok ls := by
  induction names with
  | nil => exact ⟨[], rfl⟩
  | cons n names ih =>
      obtain ⟨l, hl⟩ := Option.isSome_iff_exists.mp (h n List.mem_cons_self)
      obtain ⟨ls, hls⟩ := ih fun m hm => h m (List.mem_cons_of_mem n hm)
      exact ⟨l :: ls, ok_lookUp_iff.mpr (.cons hl (ok_lookUp_iff.mp hls))⟩

theorem Provider.ok_restrictNames {p q : Provider K ε α} {names : List (Name K)}
    (h : p.restrictNames names = .ok q) :
    ∃ infos : Catalog K, q = p.restricted infos ∧ ∀ l ∈ infos.listings, l ∈ p.infos.listings := by
  obtain ⟨ls, hls, hrest⟩ := ok_bind_iff.mp h
  obtain ⟨infos, hinfos, hq⟩ := ok_bind_iff.mp hrest
  refine ⟨infos, (ok_pure_iff.mp hq).symm, fun l hl => ?_⟩
  exact (Catalog.names_of_lookUp hls).2 l ((Catalog.mem_of_ofListings hinfos).mp hl)

/-! ### Mappings -/

namespace NameMapping

/-- The outer names are the ones that are listed, the inner ones are in `c`. -/
structure Fits (m : NameMapping K) (c : Catalog K) : Prop where
  contains : ∀ n, m.infos.contains n = (m.inner? n).isSome
  target : ∀ n inner, m.inner? n = some inner → c.contains inner = true

variable {pairs : List (Name K × Name K)} {infos c : Catalog K} {m : NameMapping K}

theorem ok_ofPairs (h : ofPairs pairs infos = .ok m) : m = ⟨pairs, infos⟩ := by
  rw [ofPairs] at h
  split at h
  · exact (Except.ok.inj h).symm
  · contradiction

theorem mem_of_inner? {n inner : Name K}
    (h : (⟨pairs, infos⟩ : NameMapping K).inner? n = some inner) : (n, inner) ∈ pairs := by
  obtain ⟨before, after, hpairs, -⟩ := List.lookup_eq_some_iff.mp h
  change pairs = before ++ (n, inner) :: after at hpairs
  rw [hpairs]
  exact List.mem_append_right before List.mem_cons_self

/-- An outer name as its inner one, and any other name as itself. -/
def translate (pairs : List (Name K × Name K)) (n : Name K) : Name K :=
  (pairs.lookup n).getD n

theorem translate_of_inner? {n inner : Name K} (h : m.inner? n = some inner) :
    translate m.pairs n = inner := by
  change m.pairs.lookup n = some inner at h
  rw [translate, h, Option.getD_some]

theorem translate_of_inner?_none {n : Name K} (h : m.inner? n = none) :
    translate m.pairs n = n := by
  change m.pairs.lookup n = none at h
  rw [translate, h, Option.getD_none]

theorem fits_of_pairs (hnames : ∀ n, infos.contains n = true ↔ n ∈ pairs.map (·.1))
    (htargets : ∀ p ∈ pairs, c.contains p.2 = true) : Fits ⟨pairs, infos⟩ c where
  contains n := by
    rw [Bool.eq_iff_iff, hnames, inner?, List.lookup_isSome_iff, List.mem_map]
    exact exists_congr fun p => and_congr_right fun _ => eq_comm.trans beq_iff_eq.symm
  target n inner h := htargets (n, inner) (mem_of_inner? h)

/-- The listings of the inner names, renamed, have the outer names. -/
theorem names_of_renamed {targets : List (Listing K)}
    (h : c.lookUp (pairs.map (·.2)) = .ok targets) :
    (List.zipWith (fun p l => l.rename p.1) pairs targets).map (·.name) = pairs.map (·.1) := by
  have hlength : pairs.length = targets.length := by
    have := congrArg List.length (Catalog.names_of_lookUp h).1
    simpa using this.symm
  rw [List.map_zipWith, ← List.map_uncurry_zip_eq_zipWith]
  calc (pairs.zip targets).map (fun x => x.1.1)
      = ((pairs.zip targets).map (·.1)).map (·.1) := by rw [List.map_map]; rfl
    _ = pairs.map (·.1) := by rw [List.map_fst_zip (Nat.le_of_eq hlength)]

theorem pairs_of_byName (h : byName pairs c = .ok m) : m.pairs = pairs := by
  obtain ⟨targets, -, hrest⟩ := ok_bind_iff.mp h
  obtain ⟨infos, -, hm⟩ := ok_bind_iff.mp hrest
  rw [ok_ofPairs hm]

theorem fits_of_byName (h : byName pairs c = .ok m) : m.Fits c := by
  obtain ⟨targets, htargets, hrest⟩ := ok_bind_iff.mp h
  obtain ⟨infos, hinfos, hm⟩ := ok_bind_iff.mp hrest
  rw [ok_ofPairs hm]
  obtain ⟨hnames, hlisted⟩ := Catalog.names_of_lookUp htargets
  refine fits_of_pairs (fun n => ?_) fun p hp => ?_
  · rw [Catalog.contains_of_ofListings hinfos, names_of_renamed htargets]
  · have hmem : p.2 ∈ targets.map (·.name) := hnames ▸ List.mem_map_of_mem hp
    obtain ⟨l, hl, hname⟩ := List.mem_map.mp hmem
    exact Catalog.contains_iff.mpr ⟨l, hlisted l hl, hname⟩

/-! ### Mappings that are declared by urls -/

/-- The pair is what the listing declares: its name for the first name in `c` with its url. -/
def Declares (c : Catalog K) (l : Listing K) (pair : Name K × Name K) : Prop :=
  ∃ k, c.Foremost (·.url = l.url) k ∧ pair = (l.name, k.name)

variable {declared : Catalog K}

theorem byUrl_eq (h : List.Forall₂ (Declares c) declared.listings pairs) :
    byUrl declared c = ofPairs pairs declared := by
  rw [byUrl, ok_mapM_iff.mpr (h.imp fun l pair hpair => ?_)]
  · rfl
  · obtain ⟨k, hk, rfl⟩ := hpair
    rw [Catalog.withUrl?_eq_some_iff.mpr hk]

/-- With the declared names, the first listings with the declared urls are the declared
listings again. -/
theorem exists_targets {ls : List (Listing K)} (h : List.Forall₂ (Declares c) ls pairs) :
    ∃ targets, c.lookUp (pairs.map (·.2)) = .ok targets ∧
      List.zipWith (fun p l => l.rename p.1) pairs targets = ls := by
  induction h with
  | nil => exact ⟨[], rfl, rfl⟩
  | @cons l _ ls pairs hpair _ ih =>
      obtain ⟨k, ⟨hk, hurl, -⟩, rfl⟩ := hpair
      obtain ⟨targets, htargets, hls⟩ := ih
      have hfind : c.find? k.name = some k := Catalog.find?_eq_some_iff.mpr ⟨hk, rfl⟩
      have hlisting : k.rename l.name = l := by rw [Listing.rename, hurl]
      refine ⟨k :: targets, ?_, ?_⟩
      · exact Catalog.ok_lookUp_iff.mpr (.cons hfind (Catalog.ok_lookUp_iff.mp htargets))
      · rw [List.zipWith_cons_cons, hlisting, hls]

/-- A mapping that is declared by urls is the one that the declared pairs of names make. -/
theorem byUrl_eq_byName (h : List.Forall₂ (Declares c) declared.listings pairs) :
    byUrl declared c = byName pairs c := by
  obtain ⟨targets, htargets, hls⟩ := exists_targets h
  rw [byUrl_eq h, byName, htargets]
  change _ = Catalog.ofListings (List.zipWith (fun p l => l.rename p.1) pairs targets) >>= _
  rw [hls, declared.ofListings_listings]
  rfl

/-- The pairs that are declared, one for each listing whose url is in `c`. -/
def urlPairs (declared c : Catalog K) : List (Name K × Name K) :=
  declared.listings.filterMap fun l => (c.withUrl? l.url).map fun k => (l.name, k.name)

theorem forall₂_urlPairs (h : ∀ l ∈ declared.listings, c.HasUrl l.url) :
    List.Forall₂ (Declares c) declared.listings (urlPairs declared c) := by
  rw [urlPairs]
  generalize declared.listings = ls at h ⊢
  induction ls with
  | nil => exact .nil
  | cons l ls ih =>
      have hrest := ih fun d hd => h d (List.mem_cons_of_mem l hd)
      rw [List.filterMap_cons]
      cases hk : c.withUrl? l.url with
      | none => exact absurd (h l List.mem_cons_self) (Catalog.withUrl?_eq_none_iff.mp hk)
      | some k => exact .cons ⟨k, Catalog.withUrl?_eq_some_iff.mp hk, rfl⟩ hrest

theorem hasUrl_of_byUrl (h : byUrl declared c = .ok m) :
    ∀ l ∈ declared.listings, c.HasUrl l.url := by
  intro l hl
  obtain ⟨pairs, hpairs, -⟩ := ok_bind_iff.mp h
  obtain ⟨pair, -, hpair⟩ := exists_mem_zip (ok_mapM_iff.mp hpairs) hl
  split at hpair
  · rename_i k hk
    obtain ⟨hmem, hurl, -⟩ := Catalog.withUrl?_eq_some_iff.mp hk
    exact ⟨k, hmem, hurl⟩
  · contradiction

theorem byName_of_byUrl (h : byUrl declared c = .ok m) :
    byName (urlPairs declared c) c = .ok m := by
  rw [← byUrl_eq_byName (forall₂_urlPairs (hasUrl_of_byUrl h))]
  exact h

end NameMapping

namespace Provider

variable {p q : Provider K ε α}

theorem mapped_routes {m : NameMapping K} (h : m.Fits p.infos) :
    Routes p (p.mapped m) m.inner? where
  plugin _ _ := rfl
  select := rfl
  contains := h.contains
  target := h.target

theorem mapByName_of_mapByUrl {declared : Catalog K} (h : p.mapByUrl declared = .ok q) :
    p.mapByName (NameMapping.urlPairs declared p.infos) = .ok q := by
  obtain ⟨m, hm, hq⟩ := ok_bind_iff.mp h
  exact ok_bind_iff.mpr ⟨m, NameMapping.byName_of_byUrl hm, hq⟩

/-! ### Overlays -/

/-- Where an overlay with the names of `infos` sends a name: behind the mapping if it is an
outer name, else nowhere but to itself. -/
def overlayRoute (m : NameMapping K) (infos : Catalog K) (n : Name K) : Option (Name K) :=
  match m.inner? n with
  | some inner => some inner
  | none => if infos.contains n then some n else none

theorem translate_of_overlayRoute {m : NameMapping K} {infos : Catalog K} {n x : Name K}
    (h : overlayRoute m infos n = some x) : NameMapping.translate m.pairs n = x := by
  rw [overlayRoute] at h
  cases hinner : m.inner? n with
  | some inner =>
      rw [hinner] at h
      rw [NameMapping.translate_of_inner? hinner, Option.some.inj h]
  | none =>
      simp only [hinner] at h
      split at h
      · rw [NameMapping.translate_of_inner?_none hinner, Option.some.inj h]
      · contradiction

/-- A name is passed on if it is no inner name. -/
theorem contains_passed_iff {m : NameMapping K} {n : Name K} :
    (p.infos.filter fun l => !m.isInner l.name).contains n = true ↔
      p.infos.contains n = true ∧ m.isInner n = false := by
  rw [Catalog.contains_iff, Catalog.contains_iff]
  constructor
  · rintro ⟨l, hl, rfl⟩
    obtain ⟨hmem, hshown⟩ := List.mem_filter.mp hl
    rw [Bool.not_eq_true'] at hshown
    exact ⟨⟨l, hmem, rfl⟩, hshown⟩
  · rintro ⟨⟨l, hl, rfl⟩, hinner⟩
    rw [← Bool.not_eq_true'] at hinner
    exact ⟨l, List.mem_filter.mpr ⟨hl, hinner⟩, rfl⟩

/-- An overlay lists the outer names and those that were passed on, none of which is an outer
name, and it answers by its route. -/
theorem ok_overlaid {m : NameMapping K} (h : p.overlaid m = .ok q) :
    (∀ n, m.infos.contains n = true → p.infos.contains n = true → m.isInner n = true) ∧
      Catalog.ofListings (m.infos.listings ++
        (p.infos.filter fun l => !m.isInner l.name).listings) = .ok q.infos ∧
      (∀ n, q.plugin n = (overlayRoute m q.infos n).elim (fun _ => unknown n) p.plugin) ∧
      q.select = Selector.evaluate q.plugin := by
  simp only [overlaid] at h
  split at h
  · rename_i hfree
    obtain ⟨infos, hinfos, hq⟩ := ok_bind_iff.mp h
    rw [← ok_pure_iff.mp hq]
    refine ⟨fun n houter hn => ?_, hinfos, fun n => ?_, rfl⟩
    · have hpassed := List.filter_eq_nil_iff.mp hfree n (Catalog.contains_iff_mem_names.mp houter)
      rw [contains_passed_iff, not_and, Bool.not_eq_false] at hpassed
      exact hpassed hn
    · simp only [ofResolver, overlayRoute]
      cases m.inner? n with
      | some inner => rfl
      | none => by_cases hn : infos.contains n = true <;> simp [hn]
  · contradiction

theorem contains_overlaid_iff {m : NameMapping K} {n : Name K} (hfits : m.Fits p.infos)
    (h : p.overlaid m = .ok q) : q.infos.contains n = true ↔
      (m.inner? n).isSome = true ∨ p.infos.contains n = true ∧ m.isInner n = false := by
  rw [Catalog.contains_of_ofListings (ok_overlaid h).2.1, List.map_append, List.mem_append,
    ← hfits.contains, ← contains_passed_iff, Catalog.contains_iff_mem_names,
    Catalog.contains_iff_mem_names]
  rfl

theorem overlaid_routes {m : NameMapping K} (hfits : m.Fits p.infos)
    (h : p.overlaid m = .ok q) : Routes p q (overlayRoute m q.infos) where
  plugin n values := by
    rw [(ok_overlaid h).2.2.1]
    cases overlayRoute m q.infos n <;> rfl
  select := (ok_overlaid h).2.2.2
  contains n := by
    rw [overlayRoute]
    cases hinner : m.inner? n with
    | some inner =>
        refine (contains_overlaid_iff hfits h).mpr (.inl ?_)
        rw [hinner, Option.isSome_some]
    | none => cases q.infos.contains n <;> rfl
  target n x hroute := by
    rw [overlayRoute] at hroute
    cases hinner : m.inner? n with
    | some inner =>
        rw [hinner] at hroute
        exact hfits.target n x (hinner.trans hroute)
    | none =>
        simp only [hinner] at hroute
        split at hroute
        · rename_i hn
          -- an outer name has an inner one, and this has none, so it was passed on
          have hlisted := (contains_overlaid_iff hfits h).mp hn
          rw [hinner] at hlisted
          rw [← Option.some.inj hroute]
          exact (hlisted.resolve_left Bool.false_ne_true).1
        · contradiction

theorem overlayByName_of_overlayByUrl {declared : Catalog K} (h : p.overlayByUrl declared = .ok q) :
    p.overlayByName (NameMapping.urlPairs declared p.infos) = .ok q := by
  obtain ⟨m, hm, hq⟩ := ok_bind_iff.mp h
  exact ok_bind_iff.mpr ⟨m, NameMapping.byName_of_byUrl hm, hq⟩

end Provider

/-! ### All of them -/

/-- A way to show plugins of another provider, under their own names or others. -/
inductive Facade (K : Kind)
  | restrict (infos : Catalog K)
  | restrictNames (names : List (Name K))
  | mapByUrl (declared : Catalog K)
  | mapByName (pairs : List (Name K × Name K))
  | overlayByUrl (declared : Catalog K)
  | overlayByName (pairs : List (Name K × Name K))

namespace Facade

def build : Facade K → Provider K ε α → Except PluginError (Provider K ε α)
  | restrict infos, p => p.restrict infos
  | restrictNames names, p => p.restrictNames names
  | mapByUrl declared, p => p.mapByUrl declared
  | mapByName pairs, p => p.mapByName pairs
  | overlayByUrl declared, p => p.overlayByUrl declared
  | overlayByName pairs, p => p.overlayByName pairs

/-- What a name that is shown is called behind the facade, where `c` is listed. -/
def inner : Facade K → Catalog K → Name K → Name K
  | restrict _, _ => id
  | restrictNames _, _ => id
  | mapByUrl declared, c => NameMapping.translate (NameMapping.urlPairs declared c)
  | mapByName pairs, _ => NameMapping.translate pairs
  | overlayByUrl declared, c => NameMapping.translate (NameMapping.urlPairs declared c)
  | overlayByName pairs, _ => NameMapping.translate pairs

variable {p q : Provider K ε α} {pairs : List (Name K × Name K)}

theorem routes_of_mapByName (h : p.mapByName pairs = .ok q) :
    p.Routes q fun n =>
      if q.infos.contains n then some (NameMapping.translate pairs n) else none := by
  obtain ⟨m, hm, hq⟩ := ok_bind_iff.mp h
  obtain rfl := ok_pure_iff.mp hq
  obtain rfl := NameMapping.pairs_of_byName hm
  have hroutes := Provider.mapped_routes (p := p) (NameMapping.fits_of_byName hm)
  rw [← hroutes.route_eq fun n inner hinner => NameMapping.translate_of_inner? hinner]
  exact hroutes

theorem routes_of_overlayByName (h : p.overlayByName pairs = .ok q) :
    p.Routes q fun n =>
      if q.infos.contains n then some (NameMapping.translate pairs n) else none := by
  obtain ⟨m, hm, hq⟩ := ok_bind_iff.mp h
  obtain rfl := NameMapping.pairs_of_byName hm
  have hroutes := Provider.overlaid_routes (NameMapping.fits_of_byName hm) hq
  rw [← hroutes.route_eq fun n inner hroute => Provider.translate_of_overlayRoute hroute]
  exact hroutes

/-- A facade sends the names that it lists behind it, and no others. -/
theorem routes {facade : Facade K} (h : facade.build p = .ok q) :
    p.Routes q fun n => if q.infos.contains n then some (facade.inner p.infos n) else none := by
  cases facade with
  | restrict infos =>
      obtain ⟨rfl, hnames⟩ := Provider.ok_restrict h
      exact Provider.restricted_routes hnames
  | restrictNames names =>
      obtain ⟨infos, rfl, hlisted⟩ := Provider.ok_restrictNames h
      refine Provider.restricted_routes fun n hn => ?_
      obtain ⟨l, hl, hname⟩ := Catalog.contains_iff.mp hn
      exact Catalog.contains_iff.mpr ⟨l, hlisted l hl, hname⟩
  | mapByUrl declared => exact routes_of_mapByName (Provider.mapByName_of_mapByUrl h)
  | mapByName pairs => exact routes_of_mapByName h
  | overlayByUrl declared =>
      exact routes_of_overlayByName (Provider.overlayByName_of_overlayByUrl h)
  | overlayByName pairs => exact routes_of_overlayByName h

variable {facade : Facade K} {n : Name K}

theorem plugin_of_listed (h : facade.build p = .ok q) (hn : n ∈ q.infos.names) :
    q.plugin n = p.plugin (facade.inner p.infos n) := by
  funext values
  rw [(routes h).plugin, if_pos (Catalog.contains_iff_mem_names.mpr hn)]

theorem plugin_of_unlisted (h : facade.build p = .ok q) (hn : n ∉ q.infos.names) :
    q.plugin n = fun _ => Provider.unknown n := by
  funext values
  rw [(routes h).plugin, if_neg fun hcontains => hn (Catalog.contains_iff_mem_names.mp hcontains)]

end Facade

end PluginForms
