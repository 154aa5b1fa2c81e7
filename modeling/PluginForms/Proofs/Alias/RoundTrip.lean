import PluginForms.Proofs.Alias.Reading
import PluginForms.Proofs.Text.Closing

/-!
When an alias is read back from its text. A selector may have any text after the parenthesis
that opens its list, and so may an alias that was not read; but what the reader takes for a
list is a closed one, and where the list is not closed it takes less, or more, or nothing.
-/

namespace PluginForms

variable {K : Kind} {urls : Url.Reader}

/-- A list is enclosed if it is closed but for the white space before it. -/
theorem enclosed_iff {list : Text} : Enclosed list ↔ Text.Closed (Text.trimStart list) := by
  constructor
  · rintro ⟨gap, inner, rfl, hgap, hinner⟩
    obtain ⟨body, rfl, -⟩ := id hinner
    rw [Text.trimStart_append hgap (Text.stops_cons rfl)]
    exact Text.Nesting.balanced_iff_closed.mp hinner
  · intro h
    obtain ⟨gap, hsplit, hgap⟩ := Text.exists_trimStart list
    exact ⟨gap, _, hsplit, hgap, Text.Nesting.balanced_iff_closed.mpr h⟩

namespace Alias

variable {n : Name K} {s : Selector K} {u : Option Url} {a : Alias K}

theorem ok_ofSelector (h : ofSelector urls n s u = .ok a) : ∃ v, a = .standsFor n s v ∧
    ∀ w ∈ v, ∃ w' ∈ u, Url.listed urls w' = .ok w := by
  cases u with
  | none =>
      obtain rfl := Except.ok.inj h
      exact ⟨none, rfl, nofun⟩
  | some u =>
      obtain ⟨v, hv, hpure⟩ := ok_bind_iff.mp h
      obtain rfl := ok_pure_iff.mp hpure
      refine ⟨some v, rfl, fun w hw => ⟨u, rfl, ?_⟩⟩
      obtain rfl := Option.some.inj hw
      exact ok_mapError_iff.mp hv

theorem Spelling.enclosed {t : Text} (h : Spelling urls t a) :
    ∀ s ∈ a.selector?, s.list = [] ∨ Enclosed s.list := by
  cases h with
  | plain n => exact nofun
  | standsFor n s hbefore hbetween hs htail =>
      intro s' hs'
      obtain rfl := Option.some.inj hs'
      exact hs.symm.imp_left And.left

/-- The text of an alias is read as the alias if its list and its url are such as a reader
could have found them. -/
theorem ofText_text_iff {v : Option ListedUrl} (hv : ∀ w ∈ v, Url.Settled urls w) :
    ofText urls (standsFor n s v).text = .ok (.standsFor n s v) ↔
      s.list = [] ∨ Enclosed s.list := by
  constructor
  · exact fun h => (ofText_eq_ok_iff.mp h).enclosed s rfl
  · exact fun hs => ofText_eq_ok_iff.mpr (spelling_text ⟨hs, hv⟩)

/-- An alias without white space in its url is read back from its text if and only if its list
is left out or is closed. A plain alias always is. -/
theorem reads_back_iff_closed (hurls : Url.Stable urls) :
    (∀ (n : Name K) (s : Selector K) (u : Option Url) (a : Alias K),
      (∀ v ∈ u, ∃ t, urls t = .ok v) → ofSelector urls n s u = .ok a →
      (∀ v ∈ a.url?, v.text.all (!Text.isBlank ·) = true) →
      (ofText urls a.text = .ok a ↔ s.list = [] ∨ Text.Closed (Text.trimStart s.list))) ∧
    ∀ n : Name K, ofText urls (plain n).text = .ok (.plain n) := by
  refine ⟨fun n s u a hu h hunbroken => ?_, fun n => ?_⟩
  · obtain ⟨v, rfl, hv⟩ := ok_ofSelector h
    rw [← enclosed_iff]
    refine ofText_text_iff fun w hw => ?_
    obtain ⟨w', hw', hlisted⟩ := hv w hw
    obtain ⟨t, ht⟩ := hu w' hw'
    exact (hurls.settled_iff ht hlisted).mpr (hunbroken w hw)
  · exact ofText_eq_ok_iff.mpr (spelling_text trivial)

namespace Sample

def kind : Kind := ⟨"counter".toList, []⟩

def post : Name kind := ⟨"post".toList, by decide⟩

/-- The list is closed: the parenthesis in the literal does not count. -/
def closed : Selector kind := ⟨post, " (\"a)\", g())".toList, by decide⟩

/-- The list is open, since its last parenthesis is in a literal. -/
def unclosed : Selector kind := ⟨post, "(\"a)".toList, by decide⟩

def page : Url := ⟨"urn:a,\"(b)".toList⟩

def pageListed : ListedUrl := ⟨⟨"urn:a%2C\"(b)".toList⟩, by decide⟩

end Sample

open Sample in
/-- The url would close the open list. -/
theorem reads_back_iff_closed_in_sample :
    ofText Url.verbatim (standsFor post closed (some pageListed)).text =
      .ok (.standsFor post closed (some pageListed)) ∧
    ofText Url.verbatim (standsFor post unclosed (some pageListed)).text ≠
      .ok (.standsFor post unclosed (some pageListed)) := by
  obtain ⟨hback, -⟩ := reads_back_iff_closed (K := kind) Url.lawful_verbatim.stable
  have hpage : ∀ v ∈ some page, ∃ t, Url.verbatim t = .ok v := by
    rintro v ⟨⟩
    exact ⟨page.text, by decide⟩
  have hunbroken (s : Selector kind) :
      ∀ v ∈ (standsFor post s (some pageListed)).url?, v.text.all (!Text.isBlank ·) = true := by
    rintro v ⟨⟩
    decide
  constructor
  · exact (hback post closed (some page) _ hpage (by decide) (hunbroken _)).mpr (by decide)
  · exact mt (hback post unclosed (some page) _ hpage (by decide) (hunbroken _)).mp (by decide)

end Alias

end PluginForms
