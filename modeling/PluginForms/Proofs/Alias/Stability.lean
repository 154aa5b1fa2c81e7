import PluginForms.Proofs.Alias.Formation
import PluginForms.Proofs.Alias.Reading
import PluginForms.Provider.Coding

/-!
The text of an alias set is read as that set. Each alias is canonical, so its text is a
whole entry of a list and is read back; the aliases stand in the order of their names and
clash in no way, so they make the set they were taken from.
-/

namespace PluginForms

variable {K : Kind} {urls : Url.Reader}

namespace Alias

open Text EntryScan

theorem passes_selector {s : Selector K} (hs : s.list = [] ∨ Enclosed s.list) :
    start.Passes s.text start := by
  have hlist : start.Passes s.list start := by
    obtain hnil | ⟨gap, inner, hlist, hgap, hinner⟩ := hs
    · rw [hnil]
      exact passes_nil
    · rw [hlist]
      exact (passes_blanks hgap).append (passes_of_balanced hinner)
  exact (passes_name s.name).append hlist

/-- The text of an alias ends at the top, or in its url if it has one. -/
theorem passes_text {a : Alias K} (ha : a.Canonical urls) :
    start.Passes a.text (if a.url? = none then start else url) := by
  have hspace : start.Passes [' '] start := passes_of_isPlain (by decide)
  cases a with
  | plain n => exact passes_name n
  | standsFor n s u =>
      have hselector := (passes_name n).append (hspace.append (passes_selector ha.1))
      cases u with
      | none => exact hselector.append passes_nil
      | some v => exact hselector.append (hspace.append (ha.2 v rfl).passes)

theorem whole_text {a : Alias K} (ha : a.Canonical urls) : Whole a.text := by
  refine ⟨_, passes_text ha, ?_⟩
  split
  · rfl
  · rfl

end Alias

namespace AliasSet

/-- Every alias of a set that was read is canonical. -/
theorem canonical_of_ofText (hurls : Url.Lawful urls) {t : Text} {s : AliasSet K}
    (h : ofText urls t = .ok s) : ∀ a ∈ s.aliases, a.Canonical urls := by
  rw [ofText] at h
  split at h
  · cases h
    intro a ha
    contradiction
  · obtain ⟨as, has, h⟩ := ok_bind_iff.mp h
    intro a ha
    rw [aliases_of_ofAliases h] at ha
    have hmem : a ∈ as := Sorted.mem_of_mem_ofList ha
    obtain ⟨entry, -, hentry⟩ := exists_of_mem_mapM has hmem
    exact (Alias.ofText_eq_ok_iff.mp (ok_mapError_iff.mp hentry)).canonical hurls

/-- A list is read as the set of the aliases that its entries are read as. -/
theorem ofText_eq_ofAliases {t : Text} {as : List (Alias K)} (hblank : Text.allBlank t = false)
    (h : List.Forall₂ (fun entry a => Alias.ofText urls entry = .ok a)
      ((Text.splitEntries t).map (·.2)) as) : ofText urls t = ofAliases as := by
  rw [ofText, hblank, Catalog.readEntries_eq_ok_iff.mpr h]
  rfl

/-- A list of texts is read as the set of the aliases that they are read as. -/
theorem ofText_commaJoin {ts : List Text} {as : List (Alias K)} (hne : ts ≠ [])
    (hwhole : ∀ t ∈ ts, Text.EntryScan.Whole t)
    (hspelled : List.Forall₂ (Alias.Spelling urls) ts as) :
    ofText urls (Text.commaJoin ts) = ofAliases as := by
  have hentries : Catalog.readEntries (Alias.ofText urls) (Text.commaJoin ts) = .ok as := by
    refine Catalog.readEntries_commaJoin hne hwhole (hspelled.imp fun t a ha => ⟨?_, ?_⟩)
    · exact Alias.ofText_eq_ok_iff.mpr ha
    · exact Alias.ofText_eq_ok_iff.mpr (ha.append_left Text.isGap_space.blank)
  refine ofText_eq_ofAliases ?_ (Catalog.readEntries_eq_ok_iff.mp hentries)
  cases hspelled with
  | nil => exact absurd rfl hne
  | cons ha => exact Text.allBlank_commaJoin ha.allBlank_eq_false _

/-- A set of canonical aliases is read from its text. -/
theorem ofText_text (s : AliasSet K) (hs : ∀ a ∈ s.aliases, a.Canonical urls) :
    ofText urls s.text = .ok s := by
  cases haliases : s.aliases with
  | nil =>
      rw [text, haliases]
      exact congrArg Except.ok (eq_of_aliases haliases.symm)
  | cons a as =>
      rw [← s.ofAliases_aliases]
      refine ofText_commaJoin ?_ ?_ ?_
      · rw [haliases]
        exact List.cons_ne_nil _ _
      · intro t ht
        obtain ⟨b, hb, rfl⟩ := List.mem_map.mp ht
        exact Alias.whole_text (hs b hb)
      · rw [List.forall₂_map_left_iff, List.forall₂_same]
        intro b hb
        exact Alias.spelling_text (hs b hb)

end AliasSet

/-- The text of an alias set that was read from some text is read as that set, so other
sets have other texts, and what the set is in JSON is decoded as the set. -/
theorem alias_sets_read_back (hurls : Url.Lawful urls) {t : Text} {s : AliasSet K}
    (h : AliasSet.ofText urls t = .ok s) :
    AliasSet.ofText urls s.text = .ok s ∧
    (∀ t' s', AliasSet.ofText urls t' = .ok s' → s'.text = s.text → s' = s) ∧
    AliasSet.decode urls s.encode = .ok s := by
  have hback {t : Text} {s : AliasSet K} (h : AliasSet.ofText urls t = .ok s) :
      AliasSet.ofText urls s.text = .ok s :=
    s.ofText_text (AliasSet.canonical_of_ofText hurls h)
  refine ⟨hback h, ?_, ?_⟩
  · intro t' s' h' htext
    have hs' := hback h'
    rw [htext, hback h] at hs'
    exact (Except.ok.inj hs').symm
  · have hdecode : AliasSet.decode urls s.encode =
        (AliasSet.ofText urls s.text : Except PluginError (AliasSet K)).mapError .rejected := rfl
    rw [hdecode, hback h]
    rfl

namespace AliasSet.Sample

/-- A macro whose list has commas, a colon, quotes, escapes and parentheses in it, under a
url with a comma and a parenthesis; white space is where nobody would put it. -/
def written : Text :=
  "mail  check \t(\"a, (b: \\\" \\\\\", g(1,\n -2)) ".toList ++
    "https://example.com/a,(b, old new ,keep".toList

def canonical : Text :=
  "keep, mail check \t(\"a, (b: \\\" \\\\\", g(1,\n -2)) ".toList ++
    "https://example.com/a%2C(b, old new".toList

def read : Except PluginError (AliasSet ⟨"counter".toList, []⟩) := ofText Url.verbatim written

theorem text_read : read.toOption.map (·.text) = some canonical := by
  decide +kernel

end AliasSet.Sample

open AliasSet.Sample in
theorem alias_sets_read_back_macro : ∃ s : AliasSet ⟨"counter".toList, []⟩,
    AliasSet.ofText Url.verbatim written = .ok s ∧ s.text = canonical ∧
    AliasSet.ofText Url.verbatim s.text = .ok s := by
  have htext := text_read
  cases hread : read with
  | ok s =>
      rw [hread] at htext
      obtain ⟨hback, -⟩ := alias_sets_read_back Url.lawful_verbatim hread
      exact ⟨s, hread, Option.some.inj htext, hback⟩
  | error e =>
      rw [hread] at htext
      contradiction

end PluginForms
