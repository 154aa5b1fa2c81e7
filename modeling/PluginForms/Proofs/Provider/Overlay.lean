import Mathlib.Data.Set.Function
import PluginForms.Proofs.Provider.Identity

/-!
Names that are laid over those of a provider. The outer names take the places of the inner ones
and all other names stay, so every plugin keeps exactly one name. For this the names must not
get into each other's way: no name may be given twice, no plugin renamed twice, and an outer
name may be one that the provider has only if its own plugin is renamed as well. Each of these
is refused somewhere else, and all of them together are what is refused.
-/

namespace PluginForms

variable {K : Kind} {ε α : Type} {pairs : List (Name K × Name K)}

namespace NameMapping

variable {m : NameMapping K} {infos c : Catalog K} {n : Name K}

/-- Where an overlay of `c` sends a name: an outer name to its inner one, an inner name that
is no outer one nowhere, and any other name of `c` to itself. -/
def route (m : NameMapping K) (c : Catalog K) (n : Name K) : Option (Name K) :=
  match m.inner? n with
  | some inner => some inner
  | none => if m.isInner n then none else if c.contains n then some n else none

theorem isInner_iff : m.isInner n = true ↔ n ∈ m.pairs.map (·.2) := by
  rw [isInner, List.any_eq_true, List.mem_map]
  simp only [beq_iff_eq]

/-! ### Pairs that make a mapping -/

theorem again_eq_nil_iff {seen ns : List (Name K)} :
    again seen ns = [] ↔ ns.Nodup ∧ ∀ n ∈ ns, n ∉ seen := by
  induction ns generalizing seen with
  | nil => simp [again]
  | cons n ns ih =>
      rw [again, List.nodup_cons, List.forall_mem_cons]
      split
      · rename_i hn
        rw [List.contains_iff_mem] at hn
        exact iff_of_false (List.cons_ne_nil _ _) fun ⟨_, hfresh, _⟩ => hfresh hn
      · rename_i hn
        rw [List.contains_iff_mem] at hn
        simp only [ih, List.mem_cons, not_or]
        constructor
        · rintro ⟨hdistinct, hseen⟩
          exact ⟨⟨fun hmem => (hseen n hmem).1 rfl, hdistinct⟩, hn, fun k hk => (hseen k hk).2⟩
        · rintro ⟨⟨hmem, hdistinct⟩, -, hseen⟩
          exact ⟨hdistinct, fun k hk => ⟨fun h => hmem (h ▸ hk), hseen k hk⟩⟩

theorem exists_ofPairs_iff : (∃ m, ofPairs pairs infos = .ok m) ↔ (pairs.map (·.2)).Nodup := by
  have hnil : again [] (pairs.map (·.2)) = [] ↔ (pairs.map (·.2)).Nodup :=
    again_eq_nil_iff.trans (and_iff_left fun _ _ => List.not_mem_nil)
  rw [← hnil, ofPairs]
  cases again [] (pairs.map (·.2)) with
  | nil => exact iff_of_true ⟨_, rfl⟩ rfl
  | cons n ns =>
      refine iff_of_false ?_ (List.cons_ne_nil n ns)
      rintro ⟨m, hm⟩
      contradiction

/-- Pairs of names are a mapping if no name stands twice on one side and the inner names
are listed. -/
theorem exists_byName (houter : (pairs.map (·.1)).Nodup) (hinner : (pairs.map (·.2)).Nodup)
    (htargets : ∀ n ∈ pairs.map (·.2), c.contains n = true) :
    ∃ m, byName pairs c = .ok m ∧ m.pairs = pairs := by
  obtain ⟨targets, hlookUp⟩ := Catalog.exists_lookUp htargets
  rw [← names_of_renamed hlookUp] at houter
  obtain ⟨infos, hinfos⟩ := Catalog.exists_ofListings_iff.mpr houter
  obtain ⟨m, hm⟩ := exists_ofPairs_iff.mpr hinner
  have hbyName : byName pairs c = .ok m :=
    ok_bind_iff.mpr ⟨targets, hlookUp, ok_bind_iff.mpr ⟨infos, hinfos, hm⟩⟩
  exact ⟨m, hbyName, pairs_of_byName hbyName⟩

theorem distinct_of_byName (h : byName pairs c = .ok m) :
    (pairs.map (·.1)).Nodup ∧ (pairs.map (·.2)).Nodup ∧
      ∀ n ∈ pairs.map (·.2), c.contains n = true := by
  obtain ⟨targets, hlookUp, hrest⟩ := ok_bind_iff.mp h
  obtain ⟨infos, hinfos, hm⟩ := ok_bind_iff.mp hrest
  refine ⟨?_, exists_ofPairs_iff.mp ⟨m, hm⟩, fun n hn => ?_⟩
  · rw [← names_of_renamed hlookUp]
    exact Catalog.exists_ofListings_iff.mp ⟨infos, hinfos⟩
  · obtain ⟨hnames, hlisted⟩ := Catalog.names_of_lookUp hlookUp
    rw [← hnames] at hn
    obtain ⟨l, hl, hname⟩ := List.mem_map.mp hn
    exact Catalog.contains_iff.mpr ⟨l, hlisted l hl, hname⟩

theorem inner?_of_mem (h : (m.pairs.map (·.1)).Nodup) {inner : Name K}
    (hmem : (n, inner) ∈ m.pairs) : m.inner? n = some inner := by
  obtain ⟨before, after, hpairs⟩ := List.append_of_mem hmem
  refine List.lookup_eq_some_iff.mpr ⟨before, after, hpairs, fun pair hpair => ?_⟩
  rw [hpairs, List.map_append, List.map_cons, List.nodup_append] at h
  rw [bne_iff_ne]
  exact fun heq => h.2.2 pair.1 (List.mem_map_of_mem hpair) n List.mem_cons_self heq.symm

end NameMapping

namespace Provider

variable {p q : Provider K ε α} {m : NameMapping K} {n : Name K}

/-! ### Mappings that can be laid over a provider -/

/-- An overlay is possible unless an outer name would be passed on as well. -/
theorem exists_overlaid
    (h : ∀ n, m.infos.contains n = true → p.infos.contains n = true → m.isInner n = true) :
    ∃ q, p.overlaid m = .ok q := by
  have hnone : m.infos.names.filter (p.infos.filter fun l => !m.isInner l.name).contains = [] := by
    refine List.filter_eq_nil_iff.mpr fun n hn hpassed => ?_
    obtain ⟨hcontains, hinner⟩ := contains_passed_iff.mp hpassed
    rw [h n (Catalog.contains_iff_mem_names.mpr hn) hcontains] at hinner
    contradiction
  have hdistinct : ((m.infos.listings ++
      (p.infos.filter fun l => !m.isInner l.name).listings).map (·.name)).Nodup := by
    rw [List.map_append, List.nodup_append]
    refine ⟨m.infos.names_nodup, Catalog.names_nodup _, fun n hn k hk hnk => ?_⟩
    obtain rfl := hnk
    exact List.filter_eq_nil_iff.mp hnone n hn (Catalog.contains_iff_mem_names.mpr hk)
  obtain ⟨infos, hinfos⟩ := Catalog.exists_ofListings_iff.mpr hdistinct
  simp only [overlaid, hnone]
  exact ⟨_, ok_bind_iff.mpr ⟨infos, hinfos, rfl⟩⟩

theorem relists_of_overlaid (hfits : m.Fits p.infos) (hurls : m.KeepsUrls p.infos)
    (h : p.overlaid m = .ok q) : Relists p q (m.route p.infos) := by
  have hroute : m.route p.infos = overlayRoute m q.infos := by
    funext n
    have hcontains := contains_overlaid_iff (n := n) hfits h
    rw [NameMapping.route, overlayRoute]
    cases hinner : m.inner? n with
    | some inner => rfl
    | none =>
        cases hisInner : m.isInner n with
        | true => simp [hcontains, hinner, hisInner]
        | false => simp [hcontains, hinner, hisInner]
  rw [hroute]
  exact overlaid_relists hfits hurls h

/-! ### The names of an overlay -/

open NameMapping (translate)

/-- The outer names alone stand for inner ones. -/
theorem isInner_translate (hfits : m.Fits p.infos) (h : p.overlaid m = .ok q)
    (hn : n ∈ q.infos.names) : m.isInner (translate m.pairs n) = (m.inner? n).isSome := by
  rw [← Catalog.contains_iff_mem_names, contains_overlaid_iff hfits h] at hn
  cases hinner : m.inner? n with
  | some inner =>
      rw [NameMapping.translate_of_inner? hinner, Option.isSome_some, NameMapping.isInner_iff]
      exact List.mem_map_of_mem (NameMapping.mem_of_inner? hinner)
  | none =>
      rw [hinner] at hn
      rw [NameMapping.translate_of_inner?_none hinner, Option.isSome_none]
      exact (hn.resolve_left Bool.false_ne_true).2

theorem translate_injOn (hfits : m.Fits p.infos) (hinner : (m.pairs.map (·.2)).Nodup)
    (h : p.overlaid m = .ok q) : Set.InjOn (translate m.pairs) {n | n ∈ q.infos.names} := by
  intro n hn k hk heq
  have hsame : (m.inner? n).isSome = (m.inner? k).isSome := by
    rw [← isInner_translate hfits h hn, ← isInner_translate hfits h hk, heq]
  cases hx : m.inner? n with
  | some x =>
      rw [hx] at hsame
      obtain ⟨y, hy⟩ := Option.isSome_iff_exists.mp hsame.symm
      rw [NameMapping.translate_of_inner? hx, NameMapping.translate_of_inner? hy] at heq
      have hpairs := List.inj_on_of_nodup_map hinner (NameMapping.mem_of_inner? hx)
        (NameMapping.mem_of_inner? hy) heq
      exact congrArg Prod.fst hpairs
  | none =>
      rw [hx, Option.isSome_none, eq_comm, Option.isSome_eq_false_iff, Option.isNone_iff_eq_none]
        at hsame
      rwa [NameMapping.translate_of_inner?_none hx,
        NameMapping.translate_of_inner?_none hsame] at heq

theorem translate_surjOn (hfits : m.Fits p.infos) (houter : (m.pairs.map (·.1)).Nodup)
    (h : p.overlaid m = .ok q) :
    Set.SurjOn (translate m.pairs) {n | n ∈ q.infos.names} {n | n ∈ p.infos.names} := by
  intro x hx
  rw [Set.mem_ofPred_eq, ← Catalog.contains_iff_mem_names] at hx
  simp only [Set.mem_image, Set.mem_ofPred_eq, ← Catalog.contains_iff_mem_names,
    contains_overlaid_iff hfits h]
  cases hisInner : m.isInner x with
  | true =>
      obtain ⟨⟨n, inner⟩, hpair, rfl⟩ := List.mem_map.mp (NameMapping.isInner_iff.mp hisInner)
      have hinner := NameMapping.inner?_of_mem houter hpair
      exact ⟨n, .inl (by rw [hinner]; rfl), NameMapping.translate_of_inner? hinner⟩
  | false =>
      -- an outer name of the provider is an inner one too, so `x` is no outer name
      have hnone : m.inner? x = none := by
        rw [← Option.isNone_iff_eq_none, ← Option.isSome_eq_false_iff, ← hfits.contains]
        refine Bool.eq_false_iff.mpr fun hcontains => ?_
        rw [(ok_overlaid h).1 x hcontains hx] at hisInner
        contradiction
      exact ⟨x, .inr ⟨hx, hisInner⟩, NameMapping.translate_of_inner?_none hnone⟩

/-- What is listed is listed behind, with the same url, under the name it is sent to. -/
theorem Relists.exists_listing {route : Name K → Option (Name K)} (h : Relists p q route)
    {l : Listing K} (hl : l ∈ q.infos.listings) :
    ∃ k ∈ p.infos.listings, route l.name = some k.name ∧ k.url = l.url := by
  have hcontains := Catalog.contains_iff.mpr ⟨l, hl, rfl⟩
  rw [h.contains] at hcontains
  obtain ⟨x, hx⟩ := Option.isSome_iff_exists.mp hcontains
  obtain ⟨k, hk, rfl⟩ := Catalog.contains_iff.mp (h.target l.name x hx)
  have hfound := h.listing l.name k.name k hx (Catalog.find?_eq_some_iff.mpr ⟨hk, rfl⟩)
  have hmem := (Catalog.find?_eq_some_iff.mp hfound).1
  have hurl : (k.rename l.name).url = l.url :=
    congrArg Listing.url (Catalog.eq_of_name_eq hmem hl rfl)
  exact ⟨k, hk, hx, hurl⟩

theorem exists_overlayByName_iff : (∃ q, p.overlayByName pairs = .ok q) ↔
    (pairs.map (·.1)).Nodup ∧ (pairs.map (·.2)).Nodup ∧
      (∀ n ∈ pairs.map (·.2), n ∈ p.infos.names) ∧
      ∀ n ∈ pairs.map (·.1), n ∈ p.infos.names → n ∈ pairs.map (·.2) := by
  have houter {m : NameMapping K} (hm : NameMapping.byName pairs p.infos = .ok m) (n : Name K) :
      m.infos.contains n = true ↔ n ∈ pairs.map (·.1) := by
    rw [(NameMapping.fits_of_byName hm).contains, ← NameMapping.pairs_of_byName hm,
      NameMapping.inner?, List.lookup_isSome_iff, List.mem_map]
    exact exists_congr fun pair => and_congr_right fun _ => beq_iff_eq.trans eq_comm
  have hinner {m : NameMapping K} (hm : NameMapping.byName pairs p.infos = .ok m) (n : Name K) :
      m.isInner n = true ↔ n ∈ pairs.map (·.2) := by
    rw [NameMapping.isInner_iff, NameMapping.pairs_of_byName hm]
  constructor
  · rintro ⟨q, h⟩
    obtain ⟨m, hm, hq⟩ := ok_bind_iff.mp h
    obtain ⟨houters, hinners, htargets⟩ := NameMapping.distinct_of_byName hm
    refine ⟨houters, hinners, fun n hn => Catalog.contains_iff_mem_names.mp (htargets n hn), ?_⟩
    intro n hn hlisted
    rw [← hinner hm]
    exact (ok_overlaid hq).1 n ((houter hm n).mpr hn) (Catalog.contains_iff_mem_names.mpr hlisted)
  · rintro ⟨houters, hinners, htargets, hfree⟩
    obtain ⟨m, hm, -⟩ := NameMapping.exists_byName houters hinners fun n hn =>
      Catalog.contains_iff_mem_names.mpr (htargets n hn)
    obtain ⟨q, hq⟩ := exists_overlaid fun n hn hlisted =>
      (hinner hm n).mpr (hfree n ((houter hm n).mp hn) (Catalog.contains_iff_mem_names.mp hlisted))
    exact ⟨q, ok_bind_iff.mpr ⟨m, hm, hq⟩⟩

/-- Names can be laid over those of a provider if and only if no outer name and no inner name is
given twice, the inner names are names of the provider, and so are outer names only if they are
inner ones too. The names of the overlay are then in one-to-one correspondence with those of the
provider: an outer name stands for its inner one and any other for itself, with the same url and
the same plugins. A name that the overlay does not list is unknown. -/
theorem overlays_keep_each_plugin_once (p : Provider K ε α) (pairs : List (Name K × Name K)) :
    ((∃ q, p.overlayByName pairs = .ok q) ↔
      (pairs.map (·.1)).Nodup ∧ (pairs.map (·.2)).Nodup ∧
      (∀ n ∈ pairs.map (·.2), n ∈ p.infos.names) ∧
      ∀ n ∈ pairs.map (·.1), n ∈ p.infos.names → n ∈ pairs.map (·.2)) ∧
    ∀ q, p.overlayByName pairs = .ok q →
      Set.BijOn (translate pairs) {n | n ∈ q.infos.names} {n | n ∈ p.infos.names} ∧
      (∀ l ∈ q.infos.listings,
        ∃ k ∈ p.infos.listings, k.name = translate pairs l.name ∧ k.url = l.url) ∧
      (∀ n ∈ q.infos.names, q.plugin n = p.plugin (translate pairs n)) ∧
      ∀ n, n ∉ q.infos.names → ∀ values, q.plugin n values = .fail (.unknown K.label n.chars) := by
  refine ⟨exists_overlayByName_iff, fun q h => ?_⟩
  obtain ⟨m, hm, hq⟩ := ok_bind_iff.mp h
  obtain rfl := NameMapping.pairs_of_byName hm
  obtain ⟨houters, hinners, -⟩ := NameMapping.distinct_of_byName hm
  have hfits := NameMapping.fits_of_byName hm
  have hrelists := overlaid_relists hfits (NameMapping.keepsUrls_of_byName hm) hq
  have hbuild : (Facade.overlayByName m.pairs).build p = .ok q := h
  refine ⟨⟨fun n hn => ?mapsTo, translate_injOn hfits hinners hq,
    translate_surjOn hfits houters hq⟩, fun l hl => ?urls,
    fun n hn => Facade.plugin_of_listed hbuild hn, fun n hn values => ?unknown⟩
  case mapsTo =>
    have hcontains := Catalog.contains_iff_mem_names.mpr hn
    exact Catalog.contains_iff_mem_names.mp ((Facade.routes hbuild).target n _ (if_pos hcontains))
  case urls =>
    obtain ⟨k, hk, hroute, hurl⟩ := hrelists.exists_listing hl
    exact ⟨k, hk, (translate_of_overlayRoute hroute).symm, hurl⟩
  case unknown =>
    rw [Facade.plugin_of_unlisted hbuild hn]
    rfl

namespace Sample

theorem exists_chained : ∃ p q : Provider kind Nat Nat, ofTable asWritten [row, other] = .ok p ∧
    p.overlayByName [(b, a), (c, b)] = .ok q ∧ p.infos.names = [a, b] ∧ q.infos.names = [b, c] ∧
    p.plugin a [] = ⟨[0], .ok 0⟩ :=
  ⟨_, _, rfl, rfl, by decide, by decide, rfl⟩

end Sample

open Sample in
/-- In the chain from `a` to `b` and from `b` to `c` the name `b` changes its plugin. -/
theorem overlays_keep_each_plugin_once_in_chain : ∃ p q : Provider kind Nat Nat,
    p.overlayByName [(b, a), (c, b)] = .ok q ∧
    Set.BijOn (translate [(b, a), (c, b)]) {n | n ∈ [b, c]} {n | n ∈ [a, b]} ∧
    q.plugin b [] = ⟨[0], .ok 0⟩ ∧ (q.plugin a []).result = .error (.unknownName a) ∧
    ¬ ∃ q, p.overlayByName [(b, a)] = .ok q := by
  obtain ⟨p, q, -, hq, hnames, hshown, hplugin⟩ := exists_chained
  obtain ⟨-, hoverlay⟩ := overlays_keep_each_plugin_once p [(b, a), (c, b)]
  obtain ⟨hbijective, -, hlisted, hunlisted⟩ := hoverlay q hq
  obtain ⟨hpossible, -⟩ := overlays_keep_each_plugin_once p [(b, a)]
  rw [hnames] at hbijective hpossible
  rw [hshown] at hbijective hlisted hunlisted
  refine ⟨p, q, hq, hbijective, ?_, ?_, ?_⟩
  · rw [hlisted b (by decide)]
    exact hplugin
  · rw [hunlisted a (by decide)]
    rfl
  · rw [hpossible]
    decide

end Provider

end PluginForms
