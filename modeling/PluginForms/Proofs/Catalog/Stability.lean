import PluginForms.Proofs.Catalog.Reading
import PluginForms.Url.Standard

/-!
The text of a catalog is read as that catalog unless a url in it has white space. Urls from
a list have none, but a url that was read from elsewhere may keep some, and it is written as
it stands.
-/

namespace PluginForms

variable {K : Kind} {urls : Url.Reader}

namespace Listing

variable {l : Listing K}

/-- Made for a url that was read, from whatever text. -/
def Advertised (urls : Url.Reader) (l : Listing K) : Prop :=
  ∃ t u, urls t = .ok u ∧ ofUrl urls l.name u = .ok l

theorem Advertised.rename (h : l.Advertised urls) (n : Name K) :
    (l.rename n).Advertised urls := by
  obtain ⟨t, u, hu, hl⟩ := h
  obtain ⟨v, hv, hpure⟩ := ok_bind_iff.mp hl
  refine ⟨t, u, hu, ok_bind_iff.mpr ⟨v, hv, ?_⟩⟩
  rw [← ok_pure_iff.mp hpure]
  rfl

/-- The url is read back, and only white space in it can keep a list from doing so. -/
theorem Advertised.settled_iff (hurls : Url.Lawful urls) (h : l.Advertised urls) :
    Url.Settled urls l.url ↔ l.url.text.all (!Text.isBlank ·) = true := by
  obtain ⟨t, u, hu, hl⟩ := h
  obtain ⟨v, hv, hpure⟩ := ok_bind_iff.mp hl
  rw [← ok_pure_iff.mp hpure]
  exact hurls.stable.settled_iff hu (ok_mapError_iff.mp hv)

end Listing

namespace Catalog

variable {c : Catalog K}

/-- What the operations on catalogs make of listings of urls that were read. -/
inductive Assembled (urls : Url.Reader) : Catalog K → Prop
  | ofListings {ls : List (Listing K)} {c : Catalog K} (hls : ∀ l ∈ ls, l.Advertised urls)
      (h : ofListings ls = .ok c) : Assembled urls c
  | union {a b c : Catalog K} (ha : Assembled urls a) (hb : Assembled urls b)
      (h : a.union b = .ok c) : Assembled urls c
  | filter {c : Catalog K} (hc : Assembled urls c) (p : Listing K → Bool) :
      Assembled urls (c.filter p)
  | rename {c d : Catalog K} {f : Name K → Name K} (hc : Assembled urls c)
      (h : c.rename f = .ok d) : Assembled urls d
  | erase {c : Catalog K} (hc : Assembled urls c) (n : Name K) : Assembled urls (c.erase n)

theorem Assembled.advertised (h : Assembled urls c) : ∀ l ∈ c.listings, l.Advertised urls := by
  induction h with
  | ofListings hls h => exact fun l hl => hls l ((mem_of_ofListings h).mp hl)
  | union _ _ h iha ihb =>
      intro l hl
      rcases mem_of_union h hl with hl | hl
      · exact iha l hl
      · exact ihb l hl
  | filter _ p ih => exact fun l hl => ih l (List.mem_filter.mp hl).1
  | rename _ h ih =>
      intro l hl
      obtain ⟨k, hk, rfl⟩ := List.mem_map.mp ((mem_of_ofListings h).mp hl)
      exact (ih k hk).rename _
  | erase _ n ih => exact fun l hl => ih l (List.mem_filter.mp hl).1

/-- A listing of a catalog that was read was read from an entry of the text. -/
theorem exists_entry_of_ofText {t : Text} {l : Listing K} (h : ofText urls t = .ok c)
    (hl : l ∈ c.listings) : ∃ entry, Listing.ofText urls entry = .ok l := by
  rw [ofText] at h
  split at h
  · cases h
    contradiction
  · obtain ⟨ls, hls, h⟩ := ok_bind_iff.mp h
    obtain ⟨entry, -, hentry⟩ := exists_of_mem_mapM hls ((mem_of_ofListings h).mp hl)
    exact ⟨entry.2, ok_mapError_iff.mp hentry⟩

/-- The urls of a catalog that was read are settled. -/
theorem settled_of_ofText (hurls : Url.Lawful urls) {t : Text} (h : ofText urls t = .ok c) :
    ∀ l ∈ c.listings, Url.Settled urls l.url := by
  intro l hl
  obtain ⟨entry, hentry⟩ := exists_entry_of_ofText h hl
  exact (Listing.ofText_eq_ok_iff.mp hentry).settled hurls

/-- A catalog of settled urls is read from its text. -/
theorem ofText_text (hc : ∀ l ∈ c.listings, Url.Settled urls l.url) :
    ofText urls c.text = .ok c := by
  by_cases hnil : c.listings = []
  · rw [text, hnil]
    exact congrArg Except.ok (eq_of_listings hnil.symm)
  · have hspelled : List.Forall₂ (Listing.Spelling urls) (c.listings.map (·.text)) c.listings := by
      rw [List.forall₂_map_left_iff, List.forall₂_same]
      exact fun l hl => Listing.spelling_text (hc l hl)
    rw [text, ofText_commaJoin ?_ ?_ hspelled, ofListings_listings]
    · exact fun h => hnil (List.map_eq_nil_iff.mp h)
    · intro t ht
      obtain ⟨l, hl, rfl⟩ := List.mem_map.mp ht
      exact Listing.whole_text (hc l hl)

/-- No url of the catalog has white space in it. -/
def Unbroken (c : Catalog K) : Prop :=
  ∀ l ∈ c.listings, l.url.text.all (!Text.isBlank ·) = true

instance : Decidable c.Unbroken :=
  inferInstanceAs (Decidable (∀ l ∈ c.listings, l.url.text.all (!Text.isBlank ·) = true))

/-- Catalogs are read back from their text, and from what they are in JSON, exactly if no url
in them has white space. -/
theorem reads_back_iff_unbroken (hurls : Url.Lawful urls) (h : Assembled urls c) :
    (ofText urls c.text = .ok c ↔ c.Unbroken) ∧ (decode urls c.encode = .ok c ↔ c.Unbroken) := by
  have hsettled (l : Listing K) (hl : l ∈ c.listings) :=
    (h.advertised l hl).settled_iff hurls
  have htext : ofText urls c.text = .ok c ↔ c.Unbroken := by
    constructor
    · exact fun hback l hl => (settled_of_ofText hurls hback l hl).unbroken
    · exact fun hunbroken => ofText_text fun l hl => (hsettled l hl).mpr (hunbroken l hl)
  have hdecode : decode urls c.encode =
      (ofText urls c.text : Except PluginError (Catalog K)).mapError .rejected := rfl
  refine ⟨htext, ?_⟩
  rw [hdecode, ok_mapError_iff]
  exact htext

/-! ### A sample

The url of `docs` was read from a text with a comma, that of `spec` has a space. -/

namespace Sample

def kind : Kind := ⟨"page".toList, []⟩

def docs : Name kind := ⟨"docs".toList, by decide⟩

def spec : Name kind := ⟨"spec".toList, by decide⟩

def urlOfDocs : ListedUrl := ⟨⟨"urn:a%2Cb".toList⟩, by decide⟩

def spacedUrl : ListedUrl := ⟨⟨"urn:a b".toList⟩, by decide⟩

def pages : Catalog kind where
  listings := [⟨docs, urlOfDocs⟩, ⟨spec, spacedUrl⟩]
  increasing := by
    rw [Sorted.Increasing]
    decide

def spaced : Catalog kind where
  listings := [⟨spec, spacedUrl⟩]
  increasing := List.pairwise_singleton _ _

end Sample

open Sample in
theorem reads_back_iff_unbroken_of_pages :
    ofText Url.asWritten pages.text ≠ .ok pages ∧
    ofText Url.asWritten (pages.erase spec).text = .ok (pages.erase spec) ∧
    decode Url.asWritten (pages.erase spec).encode = .ok (pages.erase spec) := by
  have hpages : Assembled Url.asWritten pages := by
    refine .ofListings (fun l hl => ?_) pages.ofListings_listings
    rcases List.mem_cons.mp hl with rfl | hl
    · exact ⟨"urn:a,b".toList, ⟨"urn:a,b".toList⟩, rfl, rfl⟩
    · obtain rfl := List.mem_singleton.mp hl
      exact ⟨"urn:a b".toList, ⟨"urn:a b".toList⟩, rfl, rfl⟩
  obtain ⟨hpages_text, -⟩ := reads_back_iff_unbroken Url.lawful_asWritten hpages
  obtain ⟨htext, hdecode⟩ := reads_back_iff_unbroken Url.lawful_asWritten (hpages.erase spec)
  have hbroken : ¬ pages.Unbroken := by decide
  have hunbroken : (pages.erase spec).Unbroken := by decide
  exact ⟨fun hback => hbroken (hpages_text.mp hback), htext.mpr hunbroken, hdecode.mpr hunbroken⟩

open Sample in
/-- A url that reads as itself and is listed as it is, in a catalog whose text is refused. -/
theorem text_of_spaced_url_is_refused :
    Url.standard "urn:a b".toList = .ok ⟨"urn:a b".toList⟩ ∧
    Listing.ofUrl Url.standard spec ⟨"urn:a b".toList⟩ = .ok ⟨spec, spacedUrl⟩ ∧
    ofListings [⟨spec, spacedUrl⟩] = .ok spaced ∧
    spaced.text = "urn:a b spec".toList ∧
    ofText Url.standard spaced.text ≠ .ok spaced ∧
    decode Url.standard spaced.encode ≠ .ok spaced := by
  have hread : Url.standard "urn:a b".toList = .ok ⟨"urn:a b".toList⟩ := by decide +kernel
    -- the word after the space belongs to the url, but is taken for the start of the name
  have hrefused : (ofText Url.standard spaced.text : Except PluginError (Catalog kind)) =
      .error (.invalidCharacter "urn:a b spec".toList ' ' 7) := by
    decide +kernel
  have hdecode : decode Url.standard spaced.encode =
      (ofText Url.standard spaced.text : Except PluginError (Catalog kind)).mapError .rejected :=
    rfl
  refine ⟨hread, rfl, rfl, rfl, ?_, ?_⟩
  · rw [hrefused]
    exact nofun
  · rw [hdecode, hrefused]
    exact nofun

end Catalog

end PluginForms
