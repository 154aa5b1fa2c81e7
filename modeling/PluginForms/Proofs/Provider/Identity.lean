import PluginForms.Proofs.Alias.View
import PluginForms.Proofs.Provider.Agreement

/-!
A url identifies a plugin, and whatever is done to a provider, as long as nothing gives a
plugin a url of its own, the url that a name is listed with stays the url of the row that
makes its plugins. On the way a name may be sent from one provider to the next many
times; each of them lists it with the url of the name it is sent to.
-/

namespace PluginForms

variable {K : Kind} {ε α : Type}

namespace NameMapping

/-! ### Mappings -/

/-- An outer name is listed with the url of its inner one. -/
def KeepsUrls (m : NameMapping K) (c : Catalog K) : Prop :=
  ∀ n inner l, m.inner? n = some inner → c.find? inner = some l →
    m.infos.find? n = some (l.rename n)

variable {pairs : List (Name K × Name K)} {c : Catalog K} {m : NameMapping K}

theorem keepsUrls_of_byName (h : byName pairs c = .ok m) : m.KeepsUrls c := by
  obtain ⟨targets, htargets, hrest⟩ := ok_bind_iff.mp h
  obtain ⟨infos, hinfos, hm⟩ := ok_bind_iff.mp hrest
  rw [ok_ofPairs hm]
  intro n inner l hinner hl
  have hall := List.forall₂_map_left_iff.mp (Catalog.ok_lookUp_iff.mp htargets)
  obtain ⟨t, ht, hfind⟩ := exists_mem_zip hall (mem_of_inner? hinner)
  obtain rfl := Option.some.inj (hl.symm.trans hfind)
  refine Catalog.find?_eq_some_iff.mpr ⟨(Catalog.mem_of_ofListings hinfos).mpr ?_, rfl⟩
  rw [← List.map_uncurry_zip_eq_zipWith]
  exact List.mem_map.mpr ⟨((n, inner), l), ht, rfl⟩

end NameMapping

namespace Provider

variable {p q : Provider K ε α}

/-- `q` answers for `p` and lists each name with the url of the one it sends it to. -/
structure Relists (p q : Provider K ε α) (route : Name K → Option (Name K)) : Prop
    extends Routes p q route where
  listing : ∀ n m l, route n = some m → p.infos.find? m = some l →
    q.infos.find? n = some (l.rename n)

/-- A provider that passes names on is known by where it sends them. -/
theorem Relists.unique {q' : Provider K ε α} {route : Name K → Option (Name K)}
    (h : Relists p q route) (h' : Relists p q' route) : q = q' := by
  have hinfos : q.infos = q'.infos := by
    refine Catalog.eq_of_find?_eq fun n => ?_
    have hcontains : q.infos.contains n = q'.infos.contains n :=
      (h.contains n).trans (h'.contains n).symm
    cases hroute : route n with
    | none =>
        have hmissing := h.contains n
        rw [hroute] at hmissing
        rw [Option.not_isSome_iff_eq_none.mp (Bool.eq_false_iff.mp hmissing)]
        rw [hcontains] at hmissing
        rw [Option.not_isSome_iff_eq_none.mp (Bool.eq_false_iff.mp hmissing)]
    | some m =>
        obtain ⟨l, hl⟩ := Option.isSome_iff_exists.mp (h.target n m hroute)
        rw [h.listing n m l hroute hl, h'.listing n m l hroute hl]
  have hplugin : q.plugin = q'.plugin := by
    funext n values
    rw [h.plugin, h'.plugin]
  have hselect : q.select = q'.select := by rw [h.select, h'.select, hplugin]
  obtain ⟨infos, plugin, select⟩ := q
  rw [Provider.mk.injEq]
  exact ⟨hinfos, hplugin, hselect⟩

theorem restricted_relists {infos : Catalog K} (h : ∀ l ∈ infos.listings, l ∈ p.infos.listings) :
    Relists p (p.restricted infos) fun n => if infos.contains n then some n else none where
  toRoutes := restricted_routes fun n hn => by
    obtain ⟨l, hl, hname⟩ := Catalog.contains_iff.mp hn
    exact Catalog.contains_iff.mpr ⟨l, h l hl, hname⟩
  listing n m l hroute hl := by
    split at hroute
    · rename_i hn
      obtain rfl := Option.some.inj hroute
      obtain ⟨k, hk, rfl⟩ := Catalog.contains_iff.mp hn
      obtain ⟨hmem, hname⟩ := Catalog.find?_eq_some_iff.mp hl
      obtain rfl := Catalog.eq_of_name_eq hmem (h k hk) hname
      exact Catalog.find?_eq_some_iff.mpr ⟨hk, rfl⟩
    · contradiction

theorem relists_of_restrictNames {names : List (Name K)} (h : p.restrictNames names = .ok q) :
    ∃ route, Relists p q route := by
  obtain ⟨infos, rfl, hlisted⟩ := ok_restrictNames h
  exact ⟨_, restricted_relists hlisted⟩

theorem mapped_relists {m : NameMapping K} (hfits : m.Fits p.infos) (hurls : m.KeepsUrls p.infos) :
    Relists p (p.mapped m) m.inner? where
  toRoutes := mapped_routes hfits
  listing := hurls

theorem overlaid_relists {m : NameMapping K} (hfits : m.Fits p.infos)
    (hurls : m.KeepsUrls p.infos) (h : p.overlaid m = .ok q) :
    Relists p q (overlayRoute m q.infos) := by
  obtain ⟨-, hinfos, -⟩ := ok_overlaid h
  refine ⟨overlaid_routes hfits h, fun n x l hroute hl => ?_⟩
  rw [Catalog.find?_eq_some_iff, Catalog.mem_of_ofListings hinfos, List.mem_append]
  refine ⟨?_, rfl⟩
  have hcontains := hfits.contains n
  rw [overlayRoute] at hroute
  cases hinner : m.inner? n with
  | some inner =>
      rw [hinner] at hroute
      obtain rfl := Option.some.inj hroute
      exact .inl (Catalog.find?_eq_some_iff.mp (hurls n inner l hinner hl)).1
  | none =>
      simp only [hinner] at hroute
      split at hroute
      · rename_i hn
        obtain rfl := Option.some.inj hroute
        obtain ⟨k, hk, rfl⟩ := Catalog.contains_iff.mp hn
        rcases List.mem_append.mp ((Catalog.mem_of_ofListings hinfos).mp hk) with houter | hpassed
        · rw [Catalog.contains_iff.mpr ⟨k, houter, rfl⟩, hinner] at hcontains
          contradiction
        · obtain ⟨hmem, hname⟩ := Catalog.find?_eq_some_iff.mp hl
          obtain rfl := Catalog.eq_of_name_eq hmem (List.mem_of_mem_filter hpassed) hname
          exact .inr hpassed
      · contradiction

theorem relists_of_mapByName {pairs : List (Name K × Name K)} (h : p.mapByName pairs = .ok q) :
    ∃ route, Relists p q route := by
  obtain ⟨m, hm, hq⟩ := ok_bind_iff.mp h
  obtain rfl := ok_pure_iff.mp hq
  exact ⟨_, mapped_relists (NameMapping.fits_of_byName hm) (NameMapping.keepsUrls_of_byName hm)⟩

theorem relists_of_overlayByName {pairs : List (Name K × Name K)}
    (h : p.overlayByName pairs = .ok q) : ∃ route, Relists p q route := by
  obtain ⟨m, hm, hq⟩ := ok_bind_iff.mp h
  have hurls := NameMapping.keepsUrls_of_byName hm
  exact ⟨_, overlaid_relists (NameMapping.fits_of_byName hm) hurls hq⟩

/-! ### Where plugins come from -/

/-- A row with the url `u` made `a`, as the last of the steps. -/
def Made (urls : Url.Reader) (rows : List (TableRow K ε α)) (u : ListedUrl) (steps : List ε)
    (a : α) : Prop :=
  ∃ r ∈ rows, Url.listed urls r.url = .ok u ∧
    ∃ values last, r.factory values = ⟨last, .ok a⟩ ∧ last <:+ steps

/-- The plugins of a name are made by rows with the url that it is listed with. -/
def Genuine (urls : Url.Reader) (rows : List (TableRow K ε α)) (p : Provider K ε α) : Prop :=
  ∀ n values steps a, p.plugin n values = ⟨steps, .ok a⟩ →
    ∃ l, p.infos.find? n = some l ∧ Made urls rows l.url steps a

variable {urls : Url.Reader} {rows : List (TableRow K ε α)}

/-- Selecting ends with making the plugin of the selector's name. -/
theorem Genuine.select (hp : Genuine urls rows p) (hagrees : p.Agrees) {s : Selector K}
    {steps : List ε} {a : α} (h : p.select s = ⟨steps, .ok a⟩) :
    ∃ l, p.infos.find? s.name = some l ∧ Made urls rows l.url steps a := by
  obtain ⟨e, he, hevaluate⟩ := Selector.evaluate_iff.mp ((hagrees s steps a).mp h)
  obtain ⟨es, -, rfl⟩ := Selector.expression_iff.mp he
  obtain ⟨before, values, after, b, -, hplugin, hvalue, rfl⟩ :=
    Expression.evaluate_call_iff.mp hevaluate
  cases hvalue
  obtain ⟨l, hl, r, hr, hurl, values', last, hfactory, hlast⟩ := hp s.name values after a hplugin
  exact ⟨l, hl, r, hr, hurl, values', last, hfactory, hlast.trans (List.suffix_append before after)⟩

theorem genuine_of_ofTable {own : List (TableRow K ε α)} (hown : ∀ r ∈ own, r ∈ rows)
    (h : ofTable urls own = .ok p) : Genuine urls rows p := by
  obtain ⟨listings, hlistings, hinfos, hp, -⟩ := ok_ofTable h
  intro n values steps a hplugin
  rw [hp] at hplugin
  cases hfind : own.find? fun r => r.name == n with
  | none =>
      rw [hfind] at hplugin
      exact absurd hplugin Traced.fail_ne_ok
  | some r =>
      rw [hfind] at hplugin
      have hr := List.mem_of_find?_eq_some hfind
      have hname := List.find?_some hfind
      obtain rfl := beq_iff_eq.mp hname
      obtain ⟨l, hl, hlisting⟩ := exists_mem_zip (ok_mapM_iff.mp hlistings) hr
      obtain ⟨u, hurl, hl'⟩ := ok_bind_iff.mp hlisting
      obtain rfl := ok_pure_iff.mp hl'
      refine ⟨⟨r.name, u⟩, ?_, r, hown r hr, ?_, values, steps, hplugin, List.suffix_refl steps⟩
      · refine Catalog.find?_eq_some_iff.mpr ⟨(Catalog.mem_of_ofListings hinfos).mpr ?_, rfl⟩
        exact (List.of_mem_zip hl).2
      · exact ok_mapError_iff.mp hurl

theorem genuine_of_relists {route : Name K → Option (Name K)} (hroute : Relists p q route)
    (hp : Genuine urls rows p) : Genuine urls rows q := by
  intro n values steps a hplugin
  rw [hroute.plugin] at hplugin
  split at hplugin
  · rename_i m hm
    obtain ⟨l, hl, hmade⟩ := hp m values steps a hplugin
    exact ⟨l.rename n, hroute.listing n m l hm hl, hmade⟩
  · exact absurd hplugin Traced.fail_ne_ok

theorem genuine_of_withAliases {aliases : AliasSet K} (hurls : aliases.KeepsUrls)
    (h : p.withAliases aliases = .ok q) (hagrees : p.Agrees) (hp : Genuine urls rows p) :
    Genuine urls rows q := by
  obtain ⟨hinfos, hq, -⟩ := ok_withAliases h
  intro n values steps a hplugin
  rw [hq] at hplugin
  cases hexpansion : aliases.expansion? n with
  | some x =>
      obtain ⟨-, hselect⟩ := (aliasedPlugin_iff_of_expansion hexpansion).mp hplugin
      obtain ⟨l, hl, hmade⟩ := hp.select hagrees hselect
      have hfound := AliasSet.find?_apply_of_expansion hinfos hexpansion hl
      rw [hurls.ownUrl?_eq_none n] at hfound
      exact ⟨l.rename n, hfound, hmade⟩
  | none =>
      cases hbehind : aliases.behind? n with
      | none =>
          rw [aliasedPlugin_of_hidden hexpansion hbehind] at hplugin
          exact absurd hplugin Traced.fail_ne_ok
      | some m =>
          rw [aliasedPlugin_of_behind hexpansion hbehind] at hplugin
          obtain ⟨l, hl, hmade⟩ := hp m values steps a hplugin
          have hfound := AliasSet.find?_apply_of_behind hinfos hbehind hl
          rw [hurls.ownUrl?_eq_none n] at hfound
          exact ⟨l.rename n, hfound, hmade⟩

theorem genuine_of_collect {ps : List (Provider K ε α)} (h : collect ps = .ok q)
    (hps : ∀ p ∈ ps, Genuine urls rows p) : Genuine urls rows q := by
  obtain ⟨hinfos, hq, -⟩ := ok_collect h
  intro n values steps a hplugin
  rw [hq] at hplugin
  cases hfind : ps.find? fun p => p.infos.contains n with
  | none =>
      rw [hfind] at hplugin
      exact absurd hplugin Traced.fail_ne_ok
  | some p =>
      rw [hfind] at hplugin
      have hp := List.mem_of_find?_eq_some hfind
      obtain ⟨l, hl, hmade⟩ := hps p hp n values steps a hplugin
      obtain ⟨hmem, hname⟩ := Catalog.find?_eq_some_iff.mp hl
      refine ⟨l, Catalog.find?_eq_some_iff.mpr ⟨?_, hname⟩, hmade⟩
      exact (Catalog.mem_of_ofListings hinfos).mpr (List.mem_flatMap.mpr ⟨p, hp, hmem⟩)

/-! ### The whole provider -/

/-- Built from tables with rows among `rows` without giving any plugin a url of its own. -/
inductive Authentic (urls : Url.Reader) (rows : List (TableRow K ε α)) : Provider K ε α → Prop
  | table {own : List (TableRow K ε α)} {p : Provider K ε α} (hown : ∀ r ∈ own, r ∈ rows)
      (h : ofTable urls own = .ok p) : Authentic urls rows p
  | restrictNames {p q : Provider K ε α} {names : List (Name K)} (hp : Authentic urls rows p)
      (h : p.restrictNames names = .ok q) : Authentic urls rows q
  | mapByUrl {p q : Provider K ε α} {declared : Catalog K} (hp : Authentic urls rows p)
      (h : p.mapByUrl declared = .ok q) : Authentic urls rows q
  | mapByName {p q : Provider K ε α} {pairs : List (Name K × Name K)}
      (hp : Authentic urls rows p) (h : p.mapByName pairs = .ok q) : Authentic urls rows q
  | overlayByUrl {p q : Provider K ε α} {declared : Catalog K} (hp : Authentic urls rows p)
      (h : p.overlayByUrl declared = .ok q) : Authentic urls rows q
  | overlayByName {p q : Provider K ε α} {pairs : List (Name K × Name K)}
      (hp : Authentic urls rows p) (h : p.overlayByName pairs = .ok q) : Authentic urls rows q
  | withAliases {p q : Provider K ε α} {aliases : AliasSet K} (hp : Authentic urls rows p)
      (hurls : aliases.KeepsUrls) (h : p.withAliases aliases = .ok q) : Authentic urls rows q
  | collect {ps : List (Provider K ε α)} {q : Provider K ε α}
      (hps : ∀ p ∈ ps, Authentic urls rows p) (h : collect ps = .ok q) : Authentic urls rows q
  | settings {p q : Provider K ε α} {s : Settings K} (hp : Authentic urls rows p)
      (hurls : s.aliases.KeepsUrls) (h : s.provider p = .ok q) : Authentic urls rows q

theorem relists_of_settings {s : Settings K} (h : s.provider p = .ok q) :
    ∃ shown route, Relists p shown route ∧ shown.withAliases s.aliases = .ok q := by
  rw [Settings.provider] at h
  cases henabled : s.enabled with
  | some names =>
      rw [henabled] at h
      obtain ⟨shown, hshown, hq⟩ := ok_bind_iff.mp h
      obtain ⟨route, hroute⟩ := relists_of_restrictNames hshown
      exact ⟨shown, route, hroute, hq⟩
  | none =>
      rw [henabled] at h
      obtain ⟨shown, hshown, hq⟩ := ok_bind_iff.mp h
      obtain ⟨rfl, -⟩ := ok_restrict hshown
      exact ⟨_, _, restricted_relists fun l hl => hl, hq⟩

theorem Authentic.genuine (h : Authentic urls rows p) : p.Agrees ∧ Genuine urls rows p := by
  have relisted {p q : Provider K ε α} (ih : p.Agrees ∧ Genuine urls rows p)
      (h : ∃ route, Relists p q route) : q.Agrees ∧ Genuine urls rows q := by
    obtain ⟨route, hroute⟩ := h
    exact ⟨agrees_of_select hroute.select, genuine_of_relists hroute ih.2⟩
  induction h with
  | table hown h => exact ⟨agrees_of_ofTable h, genuine_of_ofTable hown h⟩
  | restrictNames _ h ih => exact relisted ih (relists_of_restrictNames h)
  | mapByUrl _ h ih => exact relisted ih (relists_of_mapByName (mapByName_of_mapByUrl h))
  | mapByName _ h ih => exact relisted ih (relists_of_mapByName h)
  | overlayByUrl _ h ih =>
      exact relisted ih (relists_of_overlayByName (overlayByName_of_overlayByUrl h))
  | overlayByName _ h ih => exact relisted ih (relists_of_overlayByName h)
  | withAliases _ hurls h ih =>
      exact ⟨agrees_of_withAliases h, genuine_of_withAliases hurls h ih.1 ih.2⟩
  | collect _ h ih => exact ⟨agrees_of_collect h, genuine_of_collect h fun p hp => (ih p hp).2⟩
  | settings _ hurls h ih =>
      obtain ⟨shown, route, hroute, hq⟩ := relists_of_settings h
      obtain ⟨hagrees, hgenuine⟩ := relisted ih ⟨route, hroute⟩
      exact ⟨agrees_of_withAliases hq, genuine_of_withAliases hurls hq hagrees hgenuine⟩

/-- Whenever a name leads to a plugin, by itself or in a selector, the name is listed, and
what made the plugin was the factory of a row whose url is the listed one. -/
theorem plugins_have_their_listed_url (h : Authentic urls rows p) (n : Name K) (a : α) :
    (∀ values, (p.plugin n values).result = .ok a →
      ∃ l, p.infos.find? n = some l ∧ Made urls rows l.url (p.plugin n values).steps a) ∧
    (∀ s : Selector K, s.name = n → (p.select s).result = .ok a →
      ∃ l, p.infos.find? n = some l ∧ Made urls rows l.url (p.select s).steps a) := by
  obtain ⟨hagrees, hgenuine⟩ := h.genuine
  constructor
  · intro values hresult
    exact hgenuine n values _ a (by rw [← hresult])
  · rintro s rfl hresult
    exact hgenuine.select hagrees (by rw [← hresult])

namespace Sample

def other : TableRow kind Nat Nat :=
  ⟨b, ⟨"urn:b".toList⟩, fun values => ⟨[values.length + 10], .ok (values.length + 10)⟩⟩

def abbreviation : AliasSet kind where
  aliases := [.standsFor c ⟨a, "(b, 1)".toList, by decide⟩ none]
  increasing := List.pairwise_singleton _ _
  unshadowed := by decide

/-- A table whose two names are swapped, with an abbreviation in front of them. -/
theorem exists_authentic : ∃ q : Provider kind Nat Nat, Authentic asWritten [row, other] q ∧
    q.select (.bare c) = ⟨[0, 12], .ok 12⟩ ∧
      ∃ l, q.infos.find? c = some l ∧ l.url.text = "urn:b".toList := by
  have hurls : abbreviation.KeepsUrls := by
    intro d hd
    rw [List.mem_singleton.mp hd]
    rfl
  have hswap := @Authentic.overlayByName kind Nat Nat asWritten [row, other] _ _ [(a, b), (b, a)]
    (.table (fun r hr => hr) rfl) rfl
  exact ⟨_, .withAliases hswap hurls rfl, rfl, _, rfl, rfl⟩

end Sample

/-- With the names swapped the abbreviation of `a` is listed with the url of `b`, whose row is
the one that makes its plugin. -/
theorem plugins_have_their_listed_url_when_swapped : ∃ (q : Provider Sample.kind Nat Nat)
    (l : Listing Sample.kind), q.infos.find? Sample.c = some l ∧ l.url.text = "urn:b".toList ∧
      (q.select (.bare Sample.c)).result = .ok 12 ∧
      Made Sample.asWritten [Sample.row, Sample.other] l.url (q.select (.bare Sample.c)).steps 12 := by
  obtain ⟨q, hauthentic, hselect, l, hl, hurl⟩ := Sample.exists_authentic
  have hresult : (q.select (.bare Sample.c)).result = .ok 12 := by rw [hselect]
  obtain ⟨-, hselected⟩ := plugins_have_their_listed_url hauthentic Sample.c 12
  obtain ⟨l', hl', hmade⟩ := hselected (.bare Sample.c) rfl hresult
  obtain rfl := Option.some.inj (hl.symm.trans hl')
  exact ⟨q, l, hl, hurl, hresult, hmade⟩

end Provider

end PluginForms
