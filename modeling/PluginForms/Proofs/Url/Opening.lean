import PluginForms.Proofs.Url.Lawful
import PluginForms.Url.Standard

/-!
How a url may be written in a list. A reader can take much for a url, but not without a
scheme and a colon, and before the colon there is nothing that means something to the scan of
a list. From the colon on the scan is in a url, so only a comma at its end would be cut off.
-/

namespace PluginForms.Url

variable {urls : Reader} {word : Text} {u : ListedUrl}

/-- A word that is read as a url has nothing before its first colon but control characters
and a scheme. -/
def OpensWithScheme (urls : Reader) : Prop :=
  ∀ word u, word.all (!Text.isBlank ·) = true → urls word = .ok u →
    ∃ opening rest, word = opening ++ ':' :: rest ∧ opening.all isOpening = true

/-! ### The reader of the library -/

theorem eq_of_cutAt {c : Char} {t before after : Text} (h : cutAt c t = (before, some after)) :
    t = before ++ c :: after := by
  have hsplit : t = t.takeWhile (· != c) ++ t.dropWhile (· != c) :=
    List.takeWhile_append_dropWhile.symm
  rw [cutAt] at h
  split at h
  · cases h
  · rename_i d rest hdrop
    obtain ⟨rfl, hafter⟩ := Prod.mk.inj h
    obtain rfl := Option.some.inj hafter
    have hd : d = c := by simpa using Text.stops_dropWhile t d rest hdrop
    rw [hdrop, hd] at hsplit
    exact hsplit

/-- Only control characters are taken off the start of a word. -/
theorem exists_trimmed (hword : word.all (!Text.isBlank ·) = true) :
    ∃ before after, word = before ++ trimmed word ++ after ∧
      before.all Text.isControl = true := by
  let isEdge (c : Char) : Bool := c.toNat ≤ 0x20
  have hback : word.dropWhile isEdge = trimmed word ++
      ((word.dropWhile isEdge).reverse.takeWhile isEdge).reverse := by
    rw [trimmed, ← List.reverse_append, List.takeWhile_append_dropWhile, List.reverse_reverse]
  refine ⟨word.takeWhile isEdge, ((word.dropWhile isEdge).reverse.takeWhile isEdge).reverse,
    ?_, List.all_eq_true.mpr fun c hc => ?_⟩
  · rw [List.append_assoc, ← hback]
    exact List.takeWhile_append_dropWhile.symm
  · have hedge : c.toNat ≤ 0x20 := by
      simpa [isEdge] using List.all_eq_true.mp List.all_takeWhile c hc
    have hblank : Text.isBlank c = false := by
      simpa using List.all_eq_true.mp hword c ((List.takeWhile_prefix isEdge).subset hc)
    have hspace : c.toNat ≠ 0x20 := by
      intro h
      simp [Text.isBlank, h] at hblank
    simp [Text.isControl]
    omega

theorem isBlank_of_isBreak {c : Char} (h : isBreak c = true) : Text.isBlank c = true := by
  have hmem : c ∈ "\t\n\x0d".toList := List.contains_iff_mem.mp h
  have hall : "\t\n\x0d".toList.all Text.isBlank = true := by decide
  exact List.all_eq_true.mp hall c hmem

/-- A word that spells a scheme has no other characters in it, not even broken lines. -/
theorem all_isSchemePart_of_scheme? {written : Text}
    (hwritten : written.all (!Text.isBlank ·) = true)
    (h : (scheme? (unbroken written)).isSome = true) : written.all isSchemePart = true := by
  obtain ⟨d, cs, hparts, hd, hcs⟩ := exists_of_scheme? h
  refine List.all_eq_true.mpr fun c hc => ?_
  have hblank : Text.isBlank c = false := by simpa using List.all_eq_true.mp hwritten c hc
  have hkept : c ∈ unbroken written := by
    refine List.mem_filter.mpr ⟨hc, ?_⟩
    rw [Bool.not_eq_true', ← Bool.not_eq_true]
    intro hbreak
    rw [isBlank_of_isBreak hbreak] at hblank
    contradiction
  rw [hparts] at hkept
  rcases List.mem_cons.mp hkept with rfl | hc
  · rw [isSchemePart, hd]
    rfl
  · exact List.all_eq_true.mp hcs c hc

theorem opensWithScheme_standard : OpensWithScheme standard := by
  intro word u hword h
  obtain ⟨before, after, hsplit, hbefore⟩ := exists_trimmed hword
  rw [standard] at h
  cases hcut : cutAt ':' (trimmed word) with
  | mk written rest =>
      rw [hcut] at h
      dsimp only at h
      split at h
      · rename_i scheme rest hscheme
        have hparts : written.all isSchemePart = true := by
          refine all_isSchemePart_of_scheme? ?_ (by rw [hscheme]; rfl)
          rw [hsplit, eq_of_cutAt hcut] at hword
          simp only [List.all_append, Bool.and_eq_true] at hword
          exact hword.1.2.1
        refine ⟨before ++ written, rest ++ after, ?_, ?_⟩
        · rw [eq_of_cutAt hcut] at hsplit
          simpa using hsplit
        · refine List.all_eq_true.mpr fun c hc => ?_
          rcases List.mem_append.mp hc with hc | hc
          · rw [isOpening, List.all_eq_true.mp hbefore c hc]
            rfl
          · rw [isOpening, List.all_eq_true.mp hparts c hc, Bool.or_true]
      · contradiction

open Text EntryScan in
/-- The scan of a list takes the word for a url, all of it if no comma is at its end. -/
theorem OpensWithScheme.passes (hurls : OpensWithScheme urls)
    (hword : word.all (!isBlank ·) = true) (h : readListed urls word = .ok u)
    (hlast : word.getLast? ≠ some ',') : start.Passes word url := by
  obtain ⟨v, hv, -⟩ := ok_bind_iff.mp h
  obtain ⟨opening, rest, rfl, hopening⟩ := hurls word v hword (ok_mapError_iff.mp hv)
  simp only [List.all_append, List.all_cons, Bool.and_eq_true] at hword
  refine passes_of_opening hopening hword.2.2 fun hcomma => hlast ?_
  rw [List.getLast?_append, List.getLast?_cons, hcomma]
  rfl

end PluginForms.Url
