import PluginForms.Proofs.Alias.RoundTrip
import PluginForms.Proofs.Alias.Stability
import PluginForms.Proofs.Selector.Lists
import PluginForms.Proofs.Text.Cuts

/-!
Three scanners pass over the list of a selector: the reader of its parameters, the reader of
aliases, which only looks for the end of the list, and the scan that cuts a list of aliases into
its entries. The last two take what the first one reads, so a selector that can be read may stand
in an alias, and the alias in a list, and both are found again as they were written.
-/

namespace PluginForms

open Text EntryScan

variable {K : Kind} {urls : Url.Reader}

/-- A selector that can be read has a list that is taken for one, if no white space is after
it. -/
theorem Selector.enclosed_of_parameters {x : Selector K} {es : List (Expression K)}
    (h : x.parameters = .ok es) (htrim : trimEnd x.text = x.text) :
    x.list = [] ∨ Enclosed x.list := by
  have hdrop : x.text.drop x.name.chars.length = x.list := List.drop_left
  obtain hblank | ⟨gap, list, gap', hlist, hgap, hgap', hreads⟩ := exists_list_of_readParameters h
  · rw [hdrop] at hblank
    exact .inl (eq_nil_of_trimEnd (isWord_name x.name).breaks hblank htrim)
  · rw [hdrop] at hlist
    have htext : x.text = x.name.chars ++ gap ++ list ++ gap' := by
      rw [Selector.text, hlist]
      simp only [List.append_assoc]
    rw [htext] at htrim
    obtain rfl := eq_nil_of_trimEnd (hreads.breaks.append_left _) hgap' htrim
    rw [List.append_nil] at hlist
    exact .inr ⟨gap, list, hlist, hgap, hreads.balanced⟩

namespace Alias

variable {a : Alias K} {t entry gap gap' : Text} {k : Nat}

/-- The alias is written in the list `t` as the entry from character `k` on: the list is cut
before it, and a comma or nothing is after it. A comma next to a url ends it only before white
space or the end of the list. -/
inductive Written (a : Alias K) : Text → Nat → Text → Prop
  | between {before gap gap' after : Text} (hgap : gap.all isBlank = true)
      (hgap' : gap'.all isBlank = true)
      (hbegins : Begins before (gap ++ (a.text ++ gap') ++ after))
      (hends : after = [] ∨ ∃ post, after = ',' :: post ∧
        (a.url? = none ∨ gap' ≠ [] ∨ endsUrl post = true)) :
      Written a (before ++ (gap ++ (a.text ++ gap') ++ after)) before.length
        (gap ++ (a.text ++ gap'))

/-- The scan is at the top after an alias, unless it is in a url. -/
theorem passes_entry (ha : a.Canonical urls) (hgap : gap.all isBlank = true)
    (hgap' : gap'.all isBlank = true) : start.Passes (gap ++ (a.text ++ gap'))
      (if a.url? = none ∨ gap' ≠ [] then start else url) := by
  have htext := (passes_blanks hgap).append (passes_text ha)
  rw [← List.append_assoc]
  refine htext.append ?_
  by_cases hurl : a.url? = none
  · rw [if_pos hurl, if_pos (.inl hurl)]
    exact passes_blanks hgap'
  · rw [if_neg hurl]
    by_cases hnil : gap' = []
    · rw [if_neg (by simp [hurl, hnil]), hnil]
      exact passes_nil
    · rw [if_pos (.inr hnil)]
      exact passes_gap ⟨hnil, hgap'⟩

/-- The entry is one of those that the list is cut into. -/
theorem Written.exists_splitEntries (h : a.Written t k entry) (ha : a.Canonical urls) :
    ∃ es₁ es₂, splitEntries t = es₁ ++ (k, entry) :: es₂ := by
  cases h with
  | @between before gap gap' after hgap hgap' hbegins hends =>
      refine exists_splitEntries_of_passes hbegins (passes_entry ha hgap hgap') ?_
      obtain hnil | ⟨post, hpost, hcut⟩ := hends
      · exact .inl hnil
      · refine .inr ⟨post, hpost, ?_⟩
        split
        · rfl
        · rename_i hnot
          exact (hcut.resolve_left (mt .inl hnot)).resolve_left (mt .inr hnot)

theorem Written.spelling (h : a.Written t k entry) (ha : a.Canonical urls) :
    Spelling urls entry a := by
  cases h with
  | between hgap hgap' hbegins hends =>
      exact ((spelling_text ha).append_right hgap').append_left hgap

theorem Written.allBlank_eq_false (h : a.Written t k entry) (ha : a.Canonical urls) :
    allBlank t = false := by
  have hentry := (h.spelling ha).allBlank_eq_false
  cases h with
  | between hgap hgap' hbegins hends =>
      rw [allBlank] at hentry ⊢
      rw [List.all_append, List.all_append, hentry, Bool.false_and, Bool.and_false]

end Alias

namespace AliasSet

/-- An entry that is read as an alias is found under the name of the alias. -/
theorem find?_of_ofText {t entry : Text} {k : Nat} {s : AliasSet K} {a : Alias K}
    (h : ofText urls t = .ok s) (hblank : allBlank t = false) (hentry : (k, entry) ∈ splitEntries t)
    (ha : Alias.ofText urls entry = .ok a) : s.find? a.name = some a := by
  rw [ofText, hblank] at h
  obtain ⟨as, has, h⟩ := ok_bind_iff.mp h
  rw [Catalog.readEntries_eq_ok_iff] at has
  obtain ⟨b, hzip, hb⟩ := exists_mem_zip has (List.mem_map_of_mem hentry)
  obtain rfl := Except.ok.inj (ha.symm.trans hb)
  exact find?_of_mem (((mem_of_ofAliases h).2 a).mpr (List.of_mem_zip hzip).2)

end AliasSet

/-- What the reader of parameters takes for a list is skipped as one by the reader of aliases,
and by the scan of a list of aliases: no entry begins in it, and the scan is at the top after it
if it was there before. So a selector that can be read, if no white space is after it, may stand
in an alias, and the alias anywhere in a list: it is an entry there and is read back from it, the
set has it under its name, and whatever stands in the other entries is read as if it stood
alone. -/
theorem skippers_agree_with_reader (urls : Url.Reader) :
    (∀ (head list rest : Text) (es : List (Expression K)), ReadsList list es →
      Nesting.start.splitBalanced (list ++ rest) = some (list, rest) ∧
      (start.follow head (list ++ rest) = start →
        start.follow (head ++ list) rest = start ∧
        ∀ k e, (k, e) ∈ splitEntries (head ++ (list ++ rest)) →
          k ≤ head.length ∨ head.length + list.length < k)) ∧
    ∀ (x : Selector K) (es : List (Expression K)), x.parameters = .ok es →
      trimEnd x.text = x.text → ∀ n : Name K, (∃ a, Alias.ofSelector urls n x none = .ok a) ∧
      ∀ u a, Alias.ofSelector urls n x u = .ok a → (∀ v ∈ a.url?, Url.Settled urls v) →
      a.name = n ∧ a.selector? = some x ∧ ∀ t k entry, a.Written t k entry →
        Alias.ofText urls entry = .ok a ∧
        (∀ s, AliasSet.ofText urls t = .ok s → s.find? n = some a) ∧
        ∃ es₁ es₂, splitEntries t = es₁ ++ (k, entry) :: es₂ ∧
          ∀ as₁ as₂, List.Forall₂ (fun e b => Alias.ofText urls e.2 = .ok b) es₁ as₁ →
            List.Forall₂ (fun e b => Alias.ofText urls e.2 = .ok b) es₂ as₂ →
            AliasSet.ofText urls t = AliasSet.ofAliases (as₁ ++ a :: as₂) := by
  constructor
  · intro head list rest es hlist
    obtain ⟨body, hopens, hsplit⟩ := hlist.balanced
    refine ⟨Nesting.splitBalanced_append hsplit rest, fun hhead => ⟨?_, fun k e hk => ?_⟩⟩
    · rw [follow_append, hhead, follow_of_balanced hlist.balanced]
    · exact le_or_lt_of_mem_splitEntries hhead (passes_of_balanced hlist.balanced) hk
  · intro x es hx htrim n
    refine ⟨⟨_, rfl⟩, fun u a ha hurl => ?_⟩
    obtain ⟨v, rfl, -⟩ := Alias.ok_ofSelector ha
    have hcanonical : (Alias.standsFor n x v).Canonical urls :=
      ⟨x.enclosed_of_parameters hx htrim, hurl⟩
    refine ⟨rfl, rfl, fun t k entry hwritten => ?_⟩
    obtain ⟨es₁, es₂, hsplit⟩ := hwritten.exists_splitEntries hcanonical
    have hread := Alias.ofText_eq_ok_iff.mpr (hwritten.spelling hcanonical)
    have hblank := hwritten.allBlank_eq_false hcanonical
    refine ⟨hread, fun s hs => ?_, es₁, es₂, hsplit, fun as₁ as₂ h₁ h₂ => ?_⟩
    · have hentry : (k, entry) ∈ splitEntries t := by
        rw [hsplit]
        exact List.mem_append_right es₁ List.mem_cons_self
      exact AliasSet.find?_of_ofText hs hblank hentry hread
    · refine AliasSet.ofText_eq_ofAliases hblank ?_
      rw [hsplit, List.forall₂_map_left_iff]
      exact List.rel_append h₁ (.cons hread h₂)

/-! ### A sample -/

namespace SkippedSample

def kind : Kind := ⟨"counter".toList, []⟩

def digest : Name kind := ⟨"digest".toList, by decide⟩

def join : Name kind := ⟨"join".toList, by decide⟩

def tally : Name kind := ⟨"tally".toList, by decide⟩

/-- Quotes, parentheses, a colon and commas in a literal and next to one. -/
def list : Text := "(\"a, (b: \\\" \\\\\",tally( ))".toList

def parameters : List (Expression kind) :=
  [.string "a, (b: \" \\".toList, .call tally []]

def selector : Selector kind := ⟨join, list, by decide⟩

def page : ListedUrl := ⟨⟨"urn:c%2C\"(d".toList⟩, by decide⟩

def bound : Alias kind := .standsFor digest selector (some page)

def head : Text := "total tally ,\n digest join".toList

def rest : Text := " urn:c%2C\"(d\t,plain".toList

def read : Except PluginError (AliasSet kind) :=
  AliasSet.ofText Url.verbatim (head ++ (list ++ rest))

theorem written : bound.Written (head ++ (list ++ rest)) 13
    ("\n ".toList ++ (bound.text ++ "\t".toList)) := by
  have hparts : head ++ (list ++ rest) = "total tally ,".toList ++
      ("\n ".toList ++ (bound.text ++ "\t".toList) ++ ",plain".toList) := by decide
  rw [hparts]
  refine .between (by decide) (by decide) (.inr ⟨"total tally ".toList, by decide, rfl⟩) ?_
  exact .inr ⟨"plain".toList, by decide, .inr (.inl (by decide))⟩

end SkippedSample

open SkippedSample in
theorem skippers_agree_with_reader_in_sample :
    Nesting.start.splitBalanced (list ++ rest) = some (list, rest) ∧
    start.follow (head ++ list) rest = start ∧
    ∃ s, read = .ok s ∧ s.find? digest = some bound := by
  obtain ⟨hlists, hselectors⟩ := skippers_agree_with_reader (K := kind) Url.verbatim
  have hreads : ReadsList list parameters := ⟨list.tail.dropLast, by decide, rfl⟩
  have hpage : ∀ v ∈ bound.url?, Url.Settled Url.verbatim v := by
    rintro v ⟨⟩
    exact Url.lawful_verbatim.settled (t := page.text) (by decide) (by decide)
  obtain ⟨hskipped, hscan⟩ := hlists head list rest parameters hreads
  obtain ⟨-, hbound⟩ := hselectors selector parameters rfl (by decide) digest
  obtain ⟨-, -, hentries⟩ := hbound (some page.toUrl) bound (by decide) hpage
  obtain ⟨-, hfind, -⟩ := hentries _ _ _ written
  have hsome : read.toOption.isSome = true := by decide +kernel
  refine ⟨hskipped, (hscan (by decide)).1, ?_⟩
  cases hread : read with
  | ok s => exact ⟨s, rfl, hfind s hread⟩
  | error e =>
      rw [hread] at hsome
      contradiction

end PluginForms
