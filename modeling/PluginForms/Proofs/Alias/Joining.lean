import PluginForms.Proofs.Alias.Stability
import PluginForms.Proofs.Catalog.Reading
import PluginForms.Proofs.Url.Opening

/-!
Texts that are read one by one are read as well when they are joined to a list. The scan of
a list knows less of an alias or a listing than their readers do, but it comes to the end of
each entry at the top or in a url, so it cuts a list where it was joined. Only a comma that
ends a url is cut off.
-/

namespace PluginForms

open Text (firstWord lastWord)
open Text.EntryScan

variable {K : Kind} {urls : Url.Reader} {t : Text}

theorem Alias.Spelling.whole {a : Alias K} (h : Spelling urls t a)
    (hurls : Url.OpensWithScheme urls)
    (hcomma : a.url?.isSome = true → (lastWord t).getLast? ≠ some ',') : Whole t := by
  cases h with
  | plain n hbefore hafter =>
      exact ((whole_of_blank hafter).append_left (passes_name n)).append_left
        (passes_blanks hbefore)
  | @standsFor before between tail u n s hbefore hbetween hs htail =>
      have hselector := passes_selector (hs.symm.imp_left And.left)
      have hhead := (passes_blanks hbefore).append
        ((passes_name n).append ((passes_blanks hbetween.blank).append hselector))
      have htext : before ++ (n.chars ++ (between ++ (s.text ++ tail))) =
          before ++ (n.chars ++ (between ++ s.text)) ++ tail := by
        simp only [List.append_assoc]
      rw [htext] at hcomma ⊢
      refine Whole.append_left hhead ?_
      cases htail with
      | blank hafter => exact whole_of_blank hafter
      | word hbetween' hword hafter hurl =>
          -- the url is the last word of the text, so it has no comma at its end
          rw [← List.append_assoc, ← List.append_assoc,
            Text.lastWord_append hbetween' hword hafter] at hcomma
          have hpasses := hurls.passes hword.unbroken hurl (hcomma rfl)
          exact (whole_of_url hpasses hafter).append_left (passes_blanks hbetween'.blank)

theorem Listing.Spelling.whole {l : Listing K} (h : Spelling urls t l)
    (hurls : Url.OpensWithScheme urls) (hcomma : (firstWord t).getLast? ≠ some ',') :
    Whole t := by
  cases h with
  | words hbefore hword hbetween hafter hurl =>
      rw [Text.firstWord_append hbefore hword (hbetween.stops _)] at hcomma
      have hpasses := hurls.passes hword.unbroken hurl hcomma
      exact whole_words l.name hbefore hpasses hbetween hafter

/-- Reading a list is reading its entries: joined texts of aliases are read as the set of the
aliases, joined texts of listings as their catalog, and refused where those are refused. -/
theorem lists_are_read_by_entry (hurls : Url.OpensWithScheme urls) :
    (∀ (ts : List Text) (as : List (Alias K)), ts ≠ [] →
      List.Forall₂ (fun t a => Alias.ofText urls t = .ok a ∧
        (a.url?.isSome = true → (lastWord t).getLast? ≠ some ',')) ts as →
      AliasSet.ofText urls (Text.commaJoin ts) = AliasSet.ofAliases as) ∧
    (∀ (ts : List Text) (ls : List (Listing K)), ts ≠ [] →
      List.Forall₂ (fun t l => Listing.ofText urls t = .ok l ∧
        (firstWord t).getLast? ≠ some ',') ts ls →
      Catalog.ofText urls (Text.commaJoin ts) = Catalog.ofListings ls) := by
  constructor
  · intro ts as hne h
    refine AliasSet.ofText_commaJoin hne (fun t ht => ?_) (h.imp fun t a ha => ?_)
    · obtain ⟨a, -, ha, hcomma⟩ := exists_mem_zip h ht
      exact (Alias.ofText_eq_ok_iff.mp ha).whole hurls hcomma
    · exact Alias.ofText_eq_ok_iff.mp ha.1
  · intro ts ls hne h
    refine Catalog.ofText_commaJoin hne (fun t ht => ?_) (h.imp fun t l hl => ?_)
    · obtain ⟨l, -, hl, hcomma⟩ := exists_mem_zip h ht
      exact (Listing.ofText_eq_ok_iff.mp hl).whole hurls hcomma
    · exact Listing.ofText_eq_ok_iff.mp hl.1

/-! ### A sample

Entries with commas, colons, quotes and parentheses in their lists and urls. -/

namespace JoinedSample

def kind : Kind := ⟨"counter".toList, []⟩

def check : Name kind := ⟨"check".toList, by decide⟩

def keep : Name kind := ⟨"keep".toList, by decide⟩

def mail : Name kind := ⟨"mail".toList, by decide⟩

def page : ListedUrl := ⟨⟨"urn:a%2C\"(b".toList⟩, by decide⟩

def mailText : Text :=
  "mail\tcheck( \"a, (b: \\\" \\\\\", g(1,2) )  URN:a,\"(b ".toList

def keepText : Text := "\n keep".toList

def listingText : Text := "urn:a,\"(b\tkeep ".toList

def aliasOfMail : Alias kind :=
  .standsFor mail ⟨check, "( \"a, (b: \\\" \\\\\", g(1,2) )".toList, by decide⟩ (some page)

end JoinedSample

open JoinedSample in
/-- The list of listings is refused because both have one name. -/
theorem lists_are_read_by_entry_in_sample :
    AliasSet.ofText Url.standard (Text.commaJoin [mailText, keepText]) =
      AliasSet.ofAliases [aliasOfMail, .plain keep] ∧
    Catalog.ofText Url.standard (Text.commaJoin [listingText, listingText]) =
      (.error (duplicateNames kind [keep.chars]) : Except PluginError (Catalog kind)) := by
  obtain ⟨hset, hcatalog⟩ := lists_are_read_by_entry (K := kind) Url.opensWithScheme_standard
  have hmail : Alias.ofText Url.standard mailText = .ok aliasOfMail := by decide +kernel
  have hkeep : Alias.ofText Url.standard keepText = .ok (.plain keep) := by decide +kernel
  have hlisting : Listing.ofText Url.standard listingText = .ok ⟨keep, page⟩ := by
    decide +kernel
  have hurl : (firstWord listingText).getLast? ≠ some ',' := by decide
  constructor
  · refine hset _ _ (List.cons_ne_nil _ _) (.cons ⟨hmail, fun _ => ?_⟩ (.cons ⟨hkeep, ?_⟩ .nil))
    · decide
    · exact nofun
  · exact hcatalog _ [⟨keep, page⟩, ⟨keep, page⟩] (List.cons_ne_nil _ _)
      (.cons ⟨hlisting, hurl⟩ (.cons ⟨hlisting, hurl⟩ .nil))

end PluginForms
