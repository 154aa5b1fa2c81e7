import Mathlib.Data.Set.Card
import PluginForms.Proofs.Catalog.Stability
import PluginForms.Proofs.Provider.Identity

/-!
The catalogs that a program has to do with: those that it makes of listings or reads, what the
operations on catalogs make of these, what is seen of them through aliases, and what providers
list. In all of them the look-ups agree with a walk through the listings, and every url is one
that somebody gave or that was read, with its commas encoded.
-/

namespace PluginForms

variable {K : Kind} {ε α : Type} {urls : Url.Reader} {given : Url → Prop} {v : ListedUrl}

namespace Url

/-- The url in the form that it is listed in: itself without commas, else what is read when
all of them are encoded. -/
def EncodedAs (urls : Reader) (u : Url) (v : ListedUrl) : Prop :=
  v.toUrl = u ∨ ',' ∈ u.text ∧ urls (encodeCommas u.text) = .ok v.toUrl

/-- The url was given, or read from some text. -/
def Known (urls : Reader) (given : Url → Prop) (u : Url) : Prop :=
  given u ∨ ∃ t, urls t = .ok u

/-- A known url is listed in this form. -/
def Sourced (urls : Reader) (given : Url → Prop) (v : ListedUrl) : Prop :=
  ∃ u, Known urls given u ∧ EncodedAs urls u v

theorem listed_eq_error_of_not_encodedAs {u : Url} (h : ¬ ∃ v, EncodedAs urls u v) :
    ∃ e, listed urls u = .error e := by
  cases hlisted : listed urls u with
  | ok v => exact absurd ⟨v, listed_eq_ok_iff.mp hlisted⟩ h
  | error e => exact ⟨e, rfl⟩

theorem sourced_of_readListed {t : Text} (h : readListed urls t = .ok v) :
    Sourced urls given v := by
  obtain ⟨u, hu, hlisted⟩ := ok_bind_iff.mp h
  exact ⟨u, .inr ⟨t, ok_mapError_iff.mp hu⟩, listed_eq_ok_iff.mp (ok_mapError_iff.mp hlisted)⟩

end Url

theorem Listing.sourced_of_ofUrl {n : Name K} {u : Url} {l : Listing K}
    (hu : Url.Known urls given u) (h : ofUrl urls n u = .ok l) : Url.Sourced urls given l.url := by
  obtain ⟨v, hv, hl⟩ := ok_bind_iff.mp h
  obtain rfl := ok_pure_iff.mp hl
  exact ⟨u, hu, Url.listed_eq_ok_iff.mp (ok_mapError_iff.mp hv)⟩

theorem Listing.sourced_of_ofText {t : Text} {l : Listing K} (h : ofText urls t = .ok l) :
    Url.Sourced urls given l.url := by
  cases spelling_of_ofText h with
  | words _ _ _ _ hurl => exact Url.sourced_of_readListed hurl

/-! ### Where urls come from -/

theorem Catalog.exists_of_hasUrl {ls : List (Listing K)} {c : Catalog K}
    (h : ofListings ls = .ok c) (hv : c.HasUrl v) : ∃ l ∈ ls, l.url = v := by
  obtain ⟨l, hl, hurl⟩ := hv
  exact ⟨l, (mem_of_ofListings h).mp hl, hurl⟩

namespace AliasSet

variable {s : AliasSet K} {c d : Catalog K}

/-- The urls of the aliases are known ones. -/
def Sourced (urls : Url.Reader) (given : Url → Prop) (s : AliasSet K) : Prop :=
  ∀ a ∈ s.aliases, ∀ u, a.url? = some u → Url.Sourced urls given u

/-- A url that is seen through aliases is one of the catalog or the own one of an alias. -/
theorem hasUrl_of_apply (h : s.apply c = .ok d) (hv : d.HasUrl v) :
    c.HasUrl v ∨ ∃ a ∈ s.aliases, a.url? = some v := by
  rcases ok_apply h with ⟨-, rfl⟩ | ⟨-, hlistings⟩
  · exact .inl hv
  · obtain ⟨l, hl, rfl⟩ := Catalog.exists_of_hasUrl hlistings hv
    rcases List.mem_append.mp hl with hvisible | hexpanded
    · obtain ⟨k, hk, hl⟩ := List.mem_flatMap.mp hvisible
      rcases mem_visible_iff.mp hl with ⟨rfl, -⟩ | ⟨a, ha, -, rfl⟩
      · exact .inl ⟨l, hk, rfl⟩
      · cases hurl : a.url? with
        | none => exact .inl ⟨k, hk, rfl⟩
        | some u => exact .inr ⟨a, ha, hurl⟩
    · obtain ⟨a, ha, hl⟩ := List.mem_filterMap.mp hexpanded
      obtain ⟨x, -, hx⟩ := Option.bind_eq_some_iff.mp hl
      obtain ⟨u, hu, rfl⟩ := Option.map_eq_some_iff.mp hx
      rcases Option.or_eq_some_iff.mp hu with hown | ⟨-, hselected⟩
      · exact .inr ⟨a, ha, hown⟩
      · obtain ⟨k, hk, rfl⟩ := Option.map_eq_some_iff.mp hselected
        exact .inl ⟨k, (Catalog.find?_eq_some_iff.mp hk).1, rfl⟩

end AliasSet

theorem Provider.Relists.hasUrl {p q : Provider K ε α} {route : Name K → Option (Name K)}
    (h : Relists p q route) (hv : q.infos.HasUrl v) : p.infos.HasUrl v := by
  obtain ⟨l, hl, rfl⟩ := hv
  have hfound := Catalog.find?_eq_some_iff.mpr ⟨hl, rfl⟩
  have hrouted : (route l.name).isSome = true := by
    rw [← h.contains, Catalog.contains, hfound]
    rfl
  obtain ⟨m, hm⟩ := Option.isSome_iff_exists.mp hrouted
  obtain ⟨k, hk⟩ := Option.isSome_iff_exists.mp (h.target l.name m hm)
  have hlisted := Option.some.inj (hfound.symm.trans (h.listing l.name m k hm hk))
  exact ⟨k, (Catalog.find?_eq_some_iff.mp hk).1, (congrArg Listing.url hlisted).symm⟩

/-- The catalogs that a facade is declared with. -/
def Facade.catalogs : Facade K → List (Catalog K)
  | restrict infos => [infos]
  | mapByUrl declared => [declared]
  | overlayByUrl declared => [declared]
  | restrictNames _ => []
  | mapByName _ => []
  | overlayByName _ => []

/-- Only a restriction to a catalog can show other urls than those behind it. -/
theorem Facade.hasUrl_of_build {p q : Provider K ε α} {facade : Facade K}
    (h : facade.build p = .ok q) (hv : q.infos.HasUrl v) :
    p.infos.HasUrl v ∨ ∃ c ∈ facade.catalogs, c.HasUrl v := by
  have relisted (h : ∃ route, Provider.Relists p q route) : p.infos.HasUrl v := by
    obtain ⟨route, hroute⟩ := h
    exact hroute.hasUrl hv
  cases facade with
  | restrict infos =>
      obtain ⟨rfl, -⟩ := Provider.ok_restrict h
      exact .inr ⟨infos, List.mem_singleton_self infos, hv⟩
  | restrictNames names => exact .inl (relisted (Provider.relists_of_restrictNames h))
  | mapByUrl declared =>
      exact .inl (relisted (Provider.relists_of_mapByName (Provider.mapByName_of_mapByUrl h)))
  | mapByName pairs => exact .inl (relisted (Provider.relists_of_mapByName h))
  | overlayByUrl declared =>
      have hnamed := Provider.overlayByName_of_overlayByUrl h
      exact .inl (relisted (Provider.relists_of_overlayByName hnamed))
  | overlayByName pairs => exact .inl (relisted (Provider.relists_of_overlayByName h))

namespace Catalog

variable {c : Catalog K}

/-! ### Catalogs in circulation -/

/-- What is made of listings and aliases with known urls, of texts and of tables by the
operations on catalogs and on providers. -/
inductive Circulates (urls : Url.Reader) (given : Url → Prop) : Catalog K → Prop
  | ofListings {ls : List (Listing K)} {c : Catalog K}
      (hls : ∀ l ∈ ls, Url.Sourced urls given l.url) (h : ofListings ls = .ok c) :
      Circulates urls given c
  | ofText {t : Text} {c : Catalog K} (h : ofText urls t = .ok c) : Circulates urls given c
  | union {a b c : Catalog K} (ha : Circulates urls given a) (hb : Circulates urls given b)
      (h : a.union b = .ok c) : Circulates urls given c
  | filter {c : Catalog K} (hc : Circulates urls given c) (p : Listing K → Bool) :
      Circulates urls given (c.filter p)
  | rename {c d : Catalog K} {f : Name K → Name K} (hc : Circulates urls given c)
      (h : c.rename f = .ok d) : Circulates urls given d
  | erase {c : Catalog K} (hc : Circulates urls given c) (n : Name K) :
      Circulates urls given (c.erase n)
  | apply {c d : Catalog K} {s : AliasSet K} (hc : Circulates urls given c)
      (hs : s.Sourced urls given) (h : s.apply c = .ok d) : Circulates urls given d
  | table {ε α : Type} {rows : List (TableRow K ε α)} {p : Provider K ε α}
      (hrows : ∀ r ∈ rows, Url.Known urls given r.url) (h : Provider.ofTable urls rows = .ok p) :
      Circulates urls given p.infos
  | facade {ε α : Type} {p q : Provider K ε α} {facade : Facade K}
      (hp : Circulates urls given p.infos)
      (hcatalogs : ∀ c ∈ facade.catalogs, Circulates urls given c)
      (h : facade.build p = .ok q) : Circulates urls given q.infos
  | withAliases {ε α : Type} {p q : Provider K ε α} {s : AliasSet K}
      (hp : Circulates urls given p.infos) (hs : s.Sourced urls given)
      (h : p.withAliases s = .ok q) : Circulates urls given q.infos
  | collect {ε α : Type} {ps : List (Provider K ε α)} {q : Provider K ε α}
      (hps : ∀ p ∈ ps, Circulates urls given p.infos) (h : Provider.collect ps = .ok q) :
      Circulates urls given q.infos
  | settings {ε α : Type} {p q : Provider K ε α} {s : Settings K}
      (hp : Circulates urls given p.infos) (hs : s.aliases.Sourced urls given)
      (h : s.provider p = .ok q) : Circulates urls given q.infos

theorem sourced_of_ofText {t : Text} (h : ofText urls t = .ok c) (hv : c.HasUrl v) :
    Url.Sourced urls given v := by
  obtain ⟨l, hl, rfl⟩ := hv
  obtain ⟨entry, hentry⟩ := exists_entry_of_ofText h hl
  exact Listing.sourced_of_ofText hentry

theorem sourced_of_ofTable {rows : List (TableRow K ε α)} {p : Provider K ε α}
    (hrows : ∀ r ∈ rows, Url.Known urls given r.url) (h : Provider.ofTable urls rows = .ok p)
    (hv : p.infos.HasUrl v) : Url.Sourced urls given v := by
  obtain ⟨ls, hls, hinfos, -⟩ := Provider.ok_ofTable h
  obtain ⟨l, hl, rfl⟩ := exists_of_hasUrl hinfos hv
  obtain ⟨r, hr, hlisting⟩ := exists_of_mem_mapM hls hl
  exact Listing.sourced_of_ofUrl (hrows r hr) hlisting

/-- A url in a catalog in circulation is a known one in its listed form. -/
theorem Circulates.sourced (h : c.Circulates urls given) (hv : c.HasUrl v) :
    Url.Sourced urls given v := by
  have seen {c d : Catalog K} {s : AliasSet K} (hs : s.Sourced urls given)
      (ih : c.HasUrl v → Url.Sourced urls given v) (h : s.apply c = .ok d) (hv : d.HasUrl v) :
      Url.Sourced urls given v := by
    rcases AliasSet.hasUrl_of_apply h hv with hv | ⟨a, ha, hurl⟩
    · exact ih hv
    · exact hs a ha v hurl
  induction h with
  | ofListings hls h =>
      obtain ⟨l, hl, rfl⟩ := exists_of_hasUrl h hv
      exact hls l hl
  | ofText h => exact sourced_of_ofText h hv
  | union _ _ h iha ihb =>
      obtain ⟨l, hl, hurl⟩ := hv
      rcases mem_of_union h hl with hl | hl
      · exact iha ⟨l, hl, hurl⟩
      · exact ihb ⟨l, hl, hurl⟩
  | filter _ p ih =>
      obtain ⟨l, hl, hurl⟩ := hv
      exact ih ⟨l, (List.mem_filter.mp hl).1, hurl⟩
  | rename _ h ih =>
      obtain ⟨l, hl, hurl⟩ := exists_of_hasUrl h hv
      obtain ⟨k, hk, rfl⟩ := List.mem_map.mp hl
      exact ih ⟨k, hk, hurl⟩
  | erase _ n ih =>
      obtain ⟨l, hl, hurl⟩ := hv
      exact ih ⟨l, (List.mem_filter.mp hl).1, hurl⟩
  | apply _ hs h ih => exact seen hs ih h hv
  | table hrows h => exact sourced_of_ofTable hrows h hv
  | facade _ _ h ih ihcatalogs =>
      rcases Facade.hasUrl_of_build h hv with hv | ⟨c, hc, hv⟩
      · exact ih hv
      · exact ihcatalogs c hc hv
  | withAliases _ hs h ih => exact seen hs ih (Provider.ok_withAliases h).1 hv
  | collect _ h ih =>
      obtain ⟨l, hl, hurl⟩ := exists_of_hasUrl (Provider.ok_collect h).1 hv
      obtain ⟨p, hp, hl⟩ := List.mem_flatMap.mp hl
      exact ih p hp ⟨l, hl, hurl⟩
  | settings _ hs h ih =>
      obtain ⟨shown, route, hroute, hq⟩ := Provider.relists_of_settings h
      exact seen hs (fun hv => ih (hroute.hasUrl hv)) (Provider.ok_withAliases hq).1 hv

/-! ### Look-ups and walks -/

theorem contains_iff_existsUnique {n : Name K} :
    c.contains n = true ↔ ∃! l, l ∈ c.listings ∧ l.name = n := by
  rw [contains_iff]
  constructor
  · rintro ⟨l, hl, rfl⟩
    exact ⟨l, ⟨hl, rfl⟩, fun k hk => eq_of_name_eq hk.1 hl hk.2⟩
  · rintro ⟨l, hl, -⟩
    exact ⟨l, hl⟩

theorem ncard_contains (c : Catalog K) : {n | c.contains n = true}.ncard = c.size := by
  have hnames : {n | c.contains n = true} = ↑c.names.toFinset := by
    ext n
    rw [Set.mem_ofPred_eq, contains_iff_mem_names, List.coe_toFinset, Set.mem_ofPred_eq]
  rw [hnames, Set.ncard_coe_finset, List.toFinset_card_of_nodup c.names_nodup, names,
    List.length_map, size]

/-- A url is looked up in the form that it is listed in, and the first listing is found. -/
theorem byUrl?_eq_some_iff {u : Url} (h : Url.EncodedAs urls u v) {l : Listing K} :
    c.byUrl? urls u = some l ↔ ∃ before after, c.listings = before ++ l :: after ∧
      l.url = v ∧ ∀ k ∈ before, k.url ≠ v := by
  rw [byUrl?, Url.listed_eq_ok_iff.mpr h]
  change c.withUrl? v = some l ↔ _
  rw [withUrl?, List.find?_eq_some_iff_append]
  simp only [beq_iff_eq, Bool.not_eq_true', beq_eq_false_iff_ne, ne_eq]
  constructor
  · rintro ⟨hurl, before, after, hlistings, hbefore⟩
    exact ⟨before, after, hlistings, hurl, hbefore⟩
  · rintro ⟨before, after, hlistings, hurl, hbefore⟩
    exact ⟨hurl, before, after, hlistings, hbefore⟩

theorem byUrl?_eq_none {u : Url} (h : ¬ ∃ v, Url.EncodedAs urls u v) : c.byUrl? urls u = none := by
  obtain ⟨e, he⟩ := Url.listed_eq_error_of_not_encodedAs h
  rw [byUrl?, he]

/-- What a walk through the listings sees, by name and by url, is what the look-ups find. -/
structure WellFormed (urls : Url.Reader) (given : Url → Prop) (c : Catalog K) : Prop where
  names_increase : c.names.Pairwise (· < ·)
  found : ∀ n l, c.find? n = some l ↔ l ∈ c.listings ∧ l.name = n
  contained : ∀ n, c.contains n = true ↔ ∃! l, l ∈ c.listings ∧ l.name = n
  counted : c.listings.length = c.size ∧ {n | c.contains n = true}.ncard = c.size
  sourced : ∀ l ∈ c.listings, ',' ∉ l.url.text ∧ Url.Sourced urls given l.url
  found_by_url : ∀ u v, Url.EncodedAs urls u v → ∀ l, c.byUrl? urls u = some l ↔
    ∃ before after, c.listings = before ++ l :: after ∧ l.url = v ∧ ∀ k ∈ before, k.url ≠ v
  missed_by_url : ∀ u, (¬ ∃ v, Url.EncodedAs urls u v) → c.byUrl? urls u = none

/-- However a catalog was come by, its names stand in order, each is found with its one listing,
and every url in it is a known one without commas. A url whose commas can be encoded finds the
first listing that has it so encoded, and any other url finds none. -/
theorem circulating_catalogs_are_well_formed (h : c.Circulates urls given) :
    c.WellFormed urls given where
  names_increase := List.pairwise_map.mpr c.increasing
  found _ _ := find?_eq_some_iff
  contained _ := contains_iff_existsUnique
  counted := ⟨rfl, c.ncard_contains⟩
  sourced l hl := ⟨l.url.comma_free, h.sourced ⟨l, hl, rfl⟩⟩
  found_by_url _ _ hencoded _ := byUrl?_eq_some_iff hencoded
  missed_by_url _ := byUrl?_eq_none

namespace Sample

def about : Name kind := ⟨"about".toList, by decide⟩

def commaUrl : Url := ⟨"urn:a,b".toList⟩

/-- Two plugins that share a url with a comma. -/
def rows : List (TableRow kind Unit Unit) :=
  [⟨docs, commaUrl, fun _ => pure ()⟩, ⟨spec, commaUrl, fun _ => pure ()⟩]

def aliases : AliasSet kind where
  aliases := [.standsFor about (.bare docs) none]
  increasing := List.pairwise_singleton _ _
  unshadowed := by decide

def seen : List (Listing kind) := [⟨about, urlOfDocs⟩, ⟨spec, urlOfDocs⟩]

theorem exists_circulates : ∃ c : Catalog kind,
    c.Circulates Url.asWritten (fun _ => False) ∧ c.listings = seen := by
  have hread : Url.Known Url.asWritten (fun _ => False) commaUrl := .inr ⟨"urn:a,b".toList, rfl⟩
  have hrows : ∀ r ∈ rows, Url.Known Url.asWritten (fun _ => False) r.url := by
    intro r hr
    rcases List.mem_cons.mp hr with rfl | hr
    · exact hread
    · rw [List.mem_singleton.mp hr]
      exact hread
  have haliases : aliases.Sourced Url.asWritten fun _ => False := by
    intro a ha u hu
    rw [List.mem_singleton.mp ha] at hu
    contradiction
  obtain ⟨p, hp, q, hq, hlistings⟩ : ∃ p, Provider.ofTable Url.asWritten rows = .ok p ∧
      ∃ q, p.withAliases aliases = .ok q ∧ q.infos.listings = seen := ⟨_, rfl, _, rfl, rfl⟩
  exact ⟨q.infos, .withAliases (.table hrows hp) haliases hq, hlistings⟩

end Sample

open Sample in
/-- Of two plugins that share a url, one of them behind an alias, the first by name is found. -/
theorem circulating_catalogs_are_well_formed_when_aliased : ∃ c : Catalog kind,
    c.Circulates Url.asWritten (fun _ => False) ∧ c.contains docs = false ∧
      {n | c.contains n = true}.ncard = 2 ∧
      c.byUrl? Url.asWritten commaUrl = some ⟨about, urlOfDocs⟩ := by
  obtain ⟨c, hc, hlistings⟩ := exists_circulates
  have hwell := circulating_catalogs_are_well_formed hc
  have hencoded : Url.EncodedAs Url.asWritten commaUrl urlOfDocs := .inr ⟨by decide, rfl⟩
  refine ⟨c, hc, ?_, ?_, ?_⟩
  · have hrenamed : ∀ l ∈ seen, l.name ≠ docs := by decide
    rw [Bool.eq_false_iff, ne_eq, hwell.contained, hlistings]
    rintro ⟨l, ⟨hl, hname⟩, -⟩
    exact hrenamed l hl hname
  · rw [hwell.counted.2, ← hwell.counted.1, hlistings]
    rfl
  · exact (hwell.found_by_url _ _ hencoded _).mpr ⟨[], _, hlistings, rfl, nofun⟩

end Catalog

end PluginForms
