import PluginForms.Proofs.Provider.Identity

/-!
A mapping is declared by names, or by urls. A declared url stands for the plugin that has it,
and for the first one in the order of names if several do, so what is declared by urls can be
declared by names as well. It makes no difference then which of the two is done: what comes of
it lists the same and answers the same, or is refused for the same reason. What the names
cannot say is a url that no plugin has.
-/

namespace PluginForms

variable {K : Kind} {ε α : Type}

namespace NameMapping

variable {declared c : Catalog K} {l : Listing K}

/-- Declarations by urls stop at the first one whose url is not there. -/
theorem byUrl_of_missing (h : declared.Foremost (fun l => ¬ c.HasUrl l.url) l) :
    byUrl declared c = .error (.unknownName l.name) := by
  have hfind : declared.listings.find? (fun l => (c.withUrl? l.url).isNone) = some l := by
    rw [Catalog.find?_listings_eq_some_iff]
    simpa only [Catalog.Foremost, ← Catalog.withUrl?_eq_none_iff, Option.isNone_iff_eq_none] using h
  obtain ⟨hmissing, before, after, hlistings, hbefore⟩ := List.find?_eq_some_iff_append.mp hfind
  rw [byUrl, hlistings, error_mapM (e := .unknownName l.name) (fun b hb => ?before) ?missing]
  case missing => rw [Option.isNone_iff_eq_none.mp hmissing]
  case before =>
    cases hfound : c.withUrl? b.url with
    | none =>
        have := hbefore b hb
        rw [hfound] at this
        contradiction
    | some k => exact ⟨(b.name, k.name), rfl⟩
  rfl

end NameMapping

namespace Provider

/-- To declare a mapping by urls is to declare it by names, each for the first name that has
its url. Both are refused for the same reason, or both make the same provider; so it is for
mappings and for overlays. If a declared url is not there at all, the first name that is
declared with such a url is unknown. -/
theorem urls_declare_what_names_declare (p : Provider K ε α) (declared : Catalog K) :
    ((∀ l ∈ declared.listings, p.infos.HasUrl l.url) →
      ∃ pairs, List.Forall₂ (NameMapping.Declares p.infos) declared.listings pairs) ∧
    (∀ pairs, List.Forall₂ (NameMapping.Declares p.infos) declared.listings pairs →
      p.mapByUrl declared = p.mapByName pairs ∧ p.overlayByUrl declared = p.overlayByName pairs) ∧
    ((∃ l ∈ declared.listings, ¬ p.infos.HasUrl l.url) →
      ∃ l, declared.Foremost (fun l => ¬ p.infos.HasUrl l.url) l ∧
        p.mapByUrl declared = .error (.unknown K.label l.name.chars) ∧
        p.overlayByUrl declared = .error (.unknown K.label l.name.chars)) := by
  classical
  refine ⟨fun h => ⟨_, NameMapping.forall₂_urlPairs h⟩, fun pairs h => ?_, fun h => ?_⟩
  · rw [mapByUrl, mapByName, overlayByUrl, overlayByName, NameMapping.byUrl_eq_byName h]
    exact ⟨rfl, rfl⟩
  · obtain ⟨l, hl⟩ := Catalog.exists_foremost h
    rw [mapByUrl, overlayByUrl, NameMapping.byUrl_of_missing hl]
    exact ⟨l, hl, rfl, rfl⟩

namespace Sample

/-- Has the url of `other`, under a later name. -/
def twin : TableRow kind Nat Nat :=
  ⟨c, other.url, fun values => ⟨[values.length + 20], .ok (values.length + 20)⟩⟩

/-- The url of `b` under the name `a`, and that of `a` under the name `c`. -/
def declared : Catalog kind where
  listings := [⟨a, ⟨other.url, by decide⟩⟩, ⟨c, ⟨row.url, by decide⟩⟩]
  increasing := by
    refine List.pairwise_cons.mpr ⟨fun l hl => ?_, List.pairwise_singleton _ _⟩
    rw [List.mem_singleton.mp hl]
    decide

theorem exists_twins : ∃ p q : Provider kind Nat Nat, ofTable asWritten [row, other, twin] = .ok p ∧
    List.Forall₂ (NameMapping.Declares p.infos) declared.listings [(a, b), (c, a)] ∧
    p.mapByName [(a, b), (c, a)] = .ok q ∧ q.plugin a [] = ⟨[10], .ok 10⟩ ∧
    p.overlayByName [(a, b), (c, a)] = .error (duplicateNames kind [c.chars]) := by
  refine ⟨_, _, rfl, .cons ⟨⟨b, ⟨other.url, by decide⟩⟩, ?_, rfl⟩
    (.cons ⟨⟨a, ⟨row.url, by decide⟩⟩, ?_, rfl⟩ .nil), rfl, rfl, rfl⟩
  · exact Catalog.withUrl?_eq_some_iff.mp rfl
  · exact Catalog.withUrl?_eq_some_iff.mp rfl

end Sample

open Sample in
/-- Two plugins have the url of `b`, and `b` is the one that is meant, also when the names
that are declared cannot be laid over the table. -/
theorem urls_declare_what_names_declare_of_twins : ∃ p q : Provider kind Nat Nat,
    ofTable asWritten [row, other, twin] = .ok p ∧ p.mapByUrl declared = .ok q ∧
    q.plugin a [] = ⟨[10], .ok 10⟩ ∧
    p.overlayByUrl declared = .error (duplicateNames kind [c.chars]) := by
  obtain ⟨p, q, hp, hdeclares, hq, hplugin, hrefused⟩ := exists_twins
  obtain ⟨-, hsame, -⟩ := urls_declare_what_names_declare p declared
  obtain ⟨hmapped, hoverlay⟩ := hsame _ hdeclares
  exact ⟨p, q, hp, hmapped.trans hq, hplugin, hoverlay.trans hrefused⟩

end Provider

end PluginForms
