import PluginForms.Proofs.Catalog.Lookup
import PluginForms.Proofs.Text.Words
import PluginForms.Proofs.Url.Lawful
import PluginForms.Provider.Coding

/-!
Listings and catalogs as text. A listing is read from a word that is its url and from its name
after it, so a url with white space in it is written but not read again.
-/

namespace PluginForms

open Text (Stops firstWord trimStart trimEnd)

variable {K : Kind} {urls : Url.Reader} {t : Text}

namespace Listing

variable {l : Listing K}

/-- The text is the listing written in two words, with white space around and between them. -/
inductive Spelling (urls : Url.Reader) : Text → Listing K → Prop
  | words {before word between after : Text} {l : Listing K}
      (hbefore : before.all Text.isBlank = true) (hword : Text.IsWord word)
      (hbetween : Text.IsGap between) (hafter : after.all Text.isBlank = true)
      (hurl : Url.readListed urls word = .ok l.url) :
      Spelling urls (before ++ (word ++ (between ++ (l.name.chars ++ after)))) l

theorem ofText_of_spelling (h : Spelling urls t l) : ofText urls t = .ok l := by
  cases h with
  | @words before word between after _ hbefore hword hbetween hafter hurl =>
      have hname := Text.isWord_name l.name
      have hbody : trimEnd (trimStart (before ++ (word ++ (between ++ (l.name.chars ++ after))))) =
          word ++ (between ++ l.name.chars) := by
        have hbreaks := (hname.breaks.append_left between).append_left word
        rw [Text.trimStart_append hbefore (hword.stops _), ← Text.trimEnd_append hbreaks hafter]
        simp only [List.append_assoc]
      have hends := hbetween.stops l.name.chars
      have hrest : (word ++ (between ++ l.name.chars)).dropWhile (!Text.isBlank ·) =
          between ++ l.name.chars := Text.dropWhile_run hword.unbroken hends
      have hfirst : (word ++ (between ++ l.name.chars)).takeWhile (!Text.isBlank ·) = word :=
        Text.takeWhile_run hword.unbroken hends
      rw [ofText]
      simp only [hbody, hrest, hfirst]
      split
      · rename_i hnil
        exact absurd hnil (List.append_ne_nil_of_left_ne_nil hbetween.ne_nil _)
      · refine ok_bind_iff.mpr ⟨l.url, hurl, ?_⟩
        rw [Text.trimStart_append hbetween.blank hname.begins, Name.ofText_chars]
        rfl

theorem spelling_of_ofText (h : ofText urls t = .ok l) : Spelling urls t l := by
  obtain ⟨before, hbefore, hbeforeBlank⟩ := Text.exists_trimStart t
  obtain ⟨after, hafter, hafterBlank⟩ := Text.exists_trimEnd (trimStart t)
  have hbegins : Stops Text.isBlank (trimStart t) := Text.stops_trimStart t
  rw [ofText] at h
  generalize trimEnd (trimStart t) = body at h hafter
  rw [hafter] at hbefore hbegins
  dsimp only at h
  split at h
  · contradiction
  · rename_i hrest
    have hsplit : body.takeWhile (!Text.isBlank ·) ++ body.dropWhile (!Text.isBlank ·) = body :=
      List.takeWhile_append_dropWhile
    have hbody : Stops Text.isBlank body := by
      rintro c u rfl
      exact hbegins c (u ++ after) rfl
    have hne : body ≠ [] := by
      rintro rfl
      exact hrest rfl
    have hends : Stops (!Text.isBlank ·) (body.dropWhile (!Text.isBlank ·)) :=
      Text.stops_dropWhile body
    obtain ⟨u, hurl, h⟩ := ok_bind_iff.mp h
    obtain ⟨n, hn, h⟩ := ok_bind_iff.mp h
    obtain rfl := ok_pure_iff.mp h
    rw [ok_mapError_iff] at hn
    obtain ⟨between, hbetween, hbetweenBlank⟩ :=
      Text.exists_trimStart (body.dropWhile (!Text.isBlank ·))
    rw [← Name.chars_of_ofText hn] at hbetween
    rw [hbetween] at hends
    have hname := Text.isWord_name n
    have hgap := Text.isGap_of_stops hbetweenBlank hends hname.begins hname.ne_nil
    rw [← hsplit, hbetween, List.append_assoc, List.append_assoc] at hbefore
    rw [hbefore]
    exact .words (l := ⟨n, u⟩) hbeforeBlank (Text.isWord_takeWhile hbody hne) hgap hafterBlank hurl

theorem ofText_eq_ok_iff : ofText urls t = .ok l ↔ Spelling urls t l :=
  ⟨spelling_of_ofText, ofText_of_spelling⟩

/-- White space before a listing does no harm. -/
theorem Spelling.append_left (h : Spelling urls t l) {gap : Text}
    (hgap : gap.all Text.isBlank = true) : Spelling urls (gap ++ t) l := by
  cases h with
  | words hbefore hword hbetween hafter hurl =>
      rw [← List.append_assoc]
      exact .words (by rw [List.all_append, hgap, hbefore]; rfl) hword hbetween hafter hurl

theorem text_eq_words (l : Listing K) :
    l.text = [] ++ (l.url.text ++ ([' '] ++ (l.name.chars ++ []))) := by
  rw [text, List.append_nil, List.nil_append, List.singleton_append]

/-- A listing with a settled url is spelled by its text. -/
theorem spelling_text (hl : Url.Settled urls l.url) : Spelling urls l.text l := by
  rw [text_eq_words]
  exact .words rfl hl.isWord Text.isGap_space rfl hl.readListed_text

/-- The urls of listings that were read are settled. -/
theorem Spelling.settled (h : Spelling urls t l) (hurls : Url.Lawful urls) :
    Url.Settled urls l.url := by
  cases h with
  | words hbefore hword hbetween hafter hurl =>
      exact hurls.settled_of_readListed hword.unbroken hurl

open Text.EntryScan in
/-- Two words are an entry of their own if the scan of a list takes the first for a url. -/
theorem whole_words {before word between after : Text} (n : Name K)
    (hbefore : before.all Text.isBlank = true) (hword : start.Passes word Text.EntryScan.url)
    (hbetween : Text.IsGap between) (hafter : after.all Text.isBlank = true) :
    Whole (before ++ (word ++ (between ++ (n.chars ++ after)))) := by
  have hrest := (hword.append (passes_gap hbetween)).append (passes_name n)
  simpa only [List.append_assoc] using
    ((whole_of_blank hafter).append_left hrest).append_left (passes_blanks hbefore)

/-- The text of a listing with a settled url is an entry of its own. -/
theorem whole_text (hl : Url.Settled urls l.url) : Text.EntryScan.Whole l.text := by
  rw [text_eq_words]
  exact whole_words l.name rfl hl.passes Text.isGap_space rfl

theorem Spelling.allBlank_eq_false (h : Spelling urls t l) : Text.allBlank t = false := by
  cases h with
  | words hbefore hword hbetween hafter hurl =>
      exact hword.allBlank_eq_false _ _

end Listing

namespace Catalog

/-- A list of texts is read as the catalog of the listings that they are read as. -/
theorem ofText_commaJoin {ts : List Text} {ls : List (Listing K)} (hne : ts ≠ [])
    (hwhole : ∀ t ∈ ts, Text.EntryScan.Whole t)
    (hspelled : List.Forall₂ (Listing.Spelling urls) ts ls) :
    ofText urls (Text.commaJoin ts) = ofListings ls := by
  have hentries : readEntries (Listing.ofText urls) (Text.commaJoin ts) = .ok ls := by
    refine readEntries_commaJoin hne hwhole (hspelled.imp fun t l hl => ⟨?_, ?_⟩)
    · exact Listing.ofText_eq_ok_iff.mpr hl
    · exact Listing.ofText_eq_ok_iff.mpr (hl.append_left Text.isGap_space.blank)
  cases hspelled with
  | nil => exact absurd rfl hne
  | @cons t l ts ls hl hls =>
      have hblank := Text.allBlank_commaJoin hl.allBlank_eq_false ts
      rw [ofText, hblank, hentries]
      rfl

end Catalog

end PluginForms
