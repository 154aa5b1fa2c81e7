import PluginForms.Proofs.Text.Entries
import PluginForms.Url.Scheme

/-!
What is relied on of a reader of urls, and what follows for the urls it lists: each of them
is read back as it is, has no white space that would end it, and begins with a scheme, so
the scan of a list takes all of it for a url.
-/

namespace PluginForms.Url

variable {urls : Reader} {t : Text} {u : ListedUrl}

/-- A character that a scheme may have after its first one. -/
def isSchemePart (c : Char) : Bool :=
  Text.isAsciiLetter c || Text.isDigit c || "+-.".toList.contains c

theorem exists_of_scheme? {s : Text} (h : (scheme? s).isSome = true) :
    ∃ c cs, s = c :: cs ∧ Text.isAsciiLetter c = true ∧ cs.all isSchemePart = true := by
  cases s with
  | nil => contradiction
  | cons c cs =>
      simp only [scheme?] at h
      split at h
      · rename_i hparts
        obtain ⟨hc, hcs⟩ := Bool.and_eq_true_iff.mp hparts
        exact ⟨c, cs, rfl, hc, hcs⟩
      · contradiction

/-- A character that may stand before the first colon of what is read as a url. -/
def isOpening (c : Char) : Bool := Text.isControl c || isSchemePart c

theorem all_isOpening_of_scheme? {s : Text} (h : (scheme? s).isSome = true) :
    s.all isOpening = true := by
  obtain ⟨c, cs, rfl, hc, hcs⟩ := exists_of_scheme? h
  have hfirst : isSchemePart c = true := by
    rw [isSchemePart, hc]
    rfl
  refine List.all_eq_true.mpr fun d hd => ?_
  rcases List.mem_cons.mp hd with rfl | hd
  · rw [isOpening, hfirst, Bool.or_true]
  · rw [isOpening, List.all_eq_true.mp hcs d hd, Bool.or_true]

open Text EntryScan in
/-- The scan of a list is in a url from the first colon on, and only a comma at the end
could take it out of there. -/
theorem passes_of_opening {opening rest : Text} (hopening : opening.all isOpening = true)
    (hrest : rest.all (!isBlank ·) = true) (hlast : rest.getLast? ≠ some ',') :
    start.Passes (opening ++ ':' :: rest) url := by
  have hcolon : start.Passes (':' :: rest) url :=
    passes_cons (.inl (by decide)) (passes_url hrest hlast)
  exact (passes_of_class (p := isOpening) (by decide) hopening).append hcolon

/-- Urls are their own text, which begins with a scheme, and reading puts no white space
into them. -/
structure Lawful (urls : Reader) : Prop where
  reads_back {t : Text} {u : Url} (h : urls t = .ok u) : urls u.text = .ok u
  scheme {t : Text} {u : Url} (h : urls t = .ok u) :
    ∃ s rest, u.text = s ++ ':' :: rest ∧ (scheme? s).isSome = true
  unbroken {t : Text} {u : Url} (h : urls t = .ok u) (ht : t.all (!Text.isBlank ·) = true) :
    u.text.all (!Text.isBlank ·) = true

/-- Urls are their own text, which begins with a scheme; white space may be in it. -/
structure Stable (urls : Reader) : Prop where
  reads_back {t : Text} {u : Url} (h : urls t = .ok u) : urls u.text = .ok u
  scheme {t : Text} {u : Url} (h : urls t = .ok u) :
    ∃ s rest, u.text = s ++ ':' :: rest ∧ (scheme? s).isSome = true

theorem Lawful.stable (hurls : Lawful urls) : Stable urls := ⟨hurls.reads_back, hurls.scheme⟩

/-- A reader that takes texts with a scheme for the urls they are is lawful. -/
theorem Lawful.of_keeps_text (h : ∀ t u, urls t = .ok u →
    u.text = t ∧ ∃ s rest, t = s ++ ':' :: rest ∧ (scheme? s).isSome = true) : Lawful urls := by
  constructor
  · intro t u hu
    obtain ⟨htext, -⟩ := h t u hu
    rw [htext, hu]
  · intro t u hu
    obtain ⟨htext, hscheme⟩ := h t u hu
    rw [htext]
    exact hscheme
  · intro t u hu ht
    obtain ⟨htext, -⟩ := h t u hu
    rw [htext]
    exact ht

/-- Takes a text for the url it is, if it has a scheme. -/
def asWritten : Reader := fun t =>
  match t.dropWhile (· != ':') with
  | ':' :: _ => if (scheme? (t.takeWhile (· != ':'))).isSome then .ok ⟨t⟩ else .error .noScheme
  | _ => .error .noScheme

theorem asWritten_eq_ok {u : Url} (h : asWritten t = .ok u) :
    u.text = t ∧ ∃ s rest, t = s ++ ':' :: rest ∧ (scheme? s).isSome = true := by
  rw [asWritten] at h
  split at h
  · rename_i rest hcolon
    split at h
    · rename_i hscheme
      cases h
      refine ⟨rfl, t.takeWhile (· != ':'), rest, ?_, hscheme⟩
      rw [← hcolon]
      exact List.takeWhile_append_dropWhile.symm
    · contradiction
  · contradiction

theorem lawful_asWritten : Lawful asWritten := .of_keeps_text fun _ _ => asWritten_eq_ok

/-- Takes a text for the url it is, if it has a scheme and no white space. -/
def verbatim : Reader := fun t =>
  match t.dropWhile (· != ':') with
  | ':' :: _ =>
    if (scheme? (t.takeWhile (· != ':'))).isSome && t.all (!Text.isBlank ·) then .ok ⟨t⟩
    else .error .noScheme
  | _ => .error .noScheme

theorem asWritten_of_verbatim {u : Url} (h : verbatim t = .ok u) : asWritten t = .ok u := by
  rw [verbatim] at h
  split at h
  · rename_i rest hcolon
    split at h
    · rename_i hurl
      rw [asWritten, hcolon]
      exact (if_pos (Bool.and_eq_true_iff.mp hurl).1).trans h
    · contradiction
  · contradiction

theorem lawful_verbatim : Lawful verbatim :=
  .of_keeps_text fun _ _ h => asWritten_eq_ok (asWritten_of_verbatim h)

/-- The url is read back from its text wherever a blank or nothing follows it. -/
structure Settled (urls : Reader) (u : ListedUrl) : Prop where
  reads_back : urls u.text = .ok u.toUrl
  scheme : ∃ s rest, u.text = s ++ ':' :: rest ∧ (scheme? s).isSome = true
  unbroken : u.text.all (!Text.isBlank ·) = true

theorem Lawful.settled (hurls : Lawful urls) (h : urls t = .ok u.toUrl)
    (ht : t.all (!Text.isBlank ·) = true) : Settled urls u :=
  ⟨hurls.reads_back h, hurls.scheme h, hurls.unbroken h ht⟩

theorem encodeCommas_unbroken (ht : t.all (!Text.isBlank ·) = true) :
    (encodeCommas t).all (!Text.isBlank ·) = true := by
  rw [encodeCommas, List.all_flatMap]
  refine List.all_eq_true.mpr fun c hc => ?_
  by_cases hcomma : c = ','
  · rw [if_pos hcomma]
    decide
  · rw [if_neg hcomma, List.all_cons, List.all_eq_true.mp ht c hc]
    rfl

theorem listed_eq_ok_iff {v : Url} : listed urls v = .ok u ↔
    u.toUrl = v ∨ ',' ∈ v.text ∧ urls (encodeCommas v.text) = .ok u.toUrl := by
  constructor
  · intro h
    rw [listed] at h
    split at h
    · cases h
      exact .inl rfl
    · rename_i hcomma
      split at h
      · rename_i w hw
        split at h
        · cases h
          exact .inr ⟨not_not.mp hcomma, hw⟩
        · contradiction
      · contradiction
  · rintro (rfl | ⟨hcomma, hu⟩)
    · exact listed_of_comma_free urls u
    · rw [listed, dif_neg (not_not.mpr hcomma), hu]
      exact dif_pos u.comma_free

/-- A listed url was read, whichever way its commas went. -/
theorem exists_of_listed {v : Url} (hv : urls t = .ok v) (h : listed urls v = .ok u) :
    ∃ s, urls s = .ok u.toUrl ∧ (s = t ∨ s = encodeCommas v.text) := by
  obtain rfl | ⟨-, hu⟩ := listed_eq_ok_iff.mp h
  · exact ⟨t, hv, .inl rfl⟩
  · exact ⟨_, hu, .inr rfl⟩

/-- Only white space can keep a listed url from being settled. -/
theorem Stable.settled_iff (hurls : Stable urls) {v : Url} (hv : urls t = .ok v)
    (h : listed urls v = .ok u) : Settled urls u ↔ u.text.all (!Text.isBlank ·) = true := by
  obtain ⟨s, hs, -⟩ := exists_of_listed hv h
  exact ⟨Settled.unbroken, fun hunbroken => ⟨hurls.reads_back hs, hurls.scheme hs, hunbroken⟩⟩

/-- A url that is read from a word of a list is settled. -/
theorem Lawful.settled_of_readListed (hurls : Lawful urls) (ht : t.all (!Text.isBlank ·) = true)
    (h : readListed urls t = .ok u) : Settled urls u := by
  obtain ⟨v, hv, hlisted⟩ := ok_bind_iff.mp h
  rw [ok_mapError_iff] at hv hlisted
  obtain ⟨s, hs, rfl | rfl⟩ := exists_of_listed hv hlisted
  · exact hurls.settled hs ht
  · exact hurls.settled hs (encodeCommas_unbroken (hurls.unbroken hv ht))

namespace Settled

theorem exists_cons (hu : Settled urls u) :
    ∃ c rest, u.text = c :: rest ∧ Text.isAsciiLetter c = true := by
  obtain ⟨s, rest, htext, hs⟩ := hu.scheme
  obtain ⟨c, cs, rfl, hc, -⟩ := exists_of_scheme? hs
  exact ⟨c, cs ++ ':' :: rest, htext, hc⟩

theorem isWord (hu : Settled urls u) : Text.IsWord u.text := by
  obtain ⟨c, rest, htext, -⟩ := hu.exists_cons
  refine ⟨?_, hu.unbroken⟩
  rw [htext]
  exact List.cons_ne_nil c rest

theorem readListed_text (hu : Settled urls u) : readListed urls u.text = .ok u := by
  rw [readListed, hu.reads_back]
  change (listed urls u.toUrl).mapError _ = .ok u
  rw [listed_of_comma_free]
  rfl

open Text EntryScan in
/-- The scan of a list takes all of the url for one. -/
theorem passes (hu : Settled urls u) : start.Passes u.text url := by
  obtain ⟨s, rest, htext, hs⟩ := hu.scheme
  have hunbroken := hu.unbroken
  have hcomma := u.comma_free
  simp only [htext, List.all_append, List.all_cons, Bool.and_eq_true] at hunbroken
  simp only [htext, List.mem_append, List.mem_cons, not_or] at hcomma
  rw [htext]
  exact passes_of_opening (all_isOpening_of_scheme? hs) hunbroken.2.2
    fun hlast => hcomma.2.2 (List.mem_of_getLast? hlast)

end Settled

end PluginForms.Url
