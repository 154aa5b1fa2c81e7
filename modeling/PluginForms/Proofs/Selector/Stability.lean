import PluginForms.Proofs.Provider.Agreement
import PluginForms.Proofs.Selector.Splitting

/-!
Selectors as text. A selector is written as its name and its list, one right after the other,
and nothing in the text tells where the list begins. It is found again since no selector has a
list that could be taken for a part of the name: whatever makes a selector of a name and a list
refuses such a list, and what changes a selector replaces one of the two as a whole.
-/

namespace PluginForms.Selector

variable {K : Kind} {n : Name K} {list : Text} {x : Selector K}

theorem parts_of_withList (h : withList n list = .ok x) : x.name = n ∧ x.list = list := by
  rw [withList] at h
  split at h
  · obtain rfl := Except.ok.inj h
    exact ⟨rfl, rfl⟩
  · contradiction

/-- A name and a list make a selector just if the name ends where the list begins, also when
they are read one right after the other. -/
theorem withList_eq_ok_iff :
    withList n list = .ok x ↔ ofText (n.chars ++ list) = .ok x ∧ x.name = n := by
  constructor
  · intro h
    obtain ⟨rfl, rfl⟩ := parts_of_withList h
    exact ⟨ofText_eq_ok_iff.mpr rfl, rfl⟩
  · rintro ⟨h, rfl⟩
    have hlist : x.list = list := List.append_cancel_left (ofText_eq_ok_iff.mp h)
    rw [← hlist]
    exact withList_list x

/-- A text that is read is cut behind its longest run of name characters. -/
theorem parts_of_ofText {t : Text} (h : ofText t = .ok x) :
    x.name.chars = t.takeWhile isNamePart ∧ x.list = t.dropWhile isNamePart := by
  have hstops := stops_of_opensList x.opens
  rw [← ofText_eq_ok_iff.mp h]
  exact ⟨(Text.takeWhile_run x.name.all_isNamePart hstops).symm,
    (Text.dropWhile_run x.name.all_isNamePart hstops).symm⟩

/-- What is done with selectors leads to the selector, which was given this name last and this
list last. -/
inductive Obtained : Name K → Text → Selector K → Prop
  | bare (n : Name K) : Obtained n [] (bare n)
  | withList {n : Name K} {list : Text} {x : Selector K} (h : withList n list = .ok x) :
      Obtained n list x
  | ofText {n : Name K} {t : Text} {x : Selector K} (hn : n.chars = t.takeWhile isNamePart)
      (h : ofText t = .ok x) : Obtained n (t.dropWhile isNamePart) x
  | rename {n : Name K} {list : Text} {x : Selector K} (hx : Obtained n list x) (m : Name K) :
      Obtained m list (x.rename m)
  | setList {n : Name K} {list list' : Text} {x y : Selector K} (hx : Obtained n list x)
      (h : Selector.withList x.name list' = .ok y) : Obtained n list' y
  | unalias {aliases : AliasSet K} {n m : Name K} {list : Text} {x y : Selector K}
      (hx : Obtained n list x) (hexpansion : aliases.expansion? x.name = none)
      (hbehind : aliases.behind? x.name = some m) (h : aliases.unalias x = .ok y) :
      Obtained m list y
  | expand {aliases : AliasSet K} {n m : Name K} {list list' : Text} {x y z : Selector K}
      (hx : Obtained n list x) (hz : Obtained m list' z)
      (hexpansion : aliases.expansion? x.name = some z) (h : aliases.unalias x = .ok y) :
      Obtained m list' y

/-- The name and the list that were given last are those of the selector. -/
theorem Obtained.parts (h : Obtained n list x) : x.name = n ∧ x.list = list := by
  induction h with
  | bare n => exact ⟨rfl, rfl⟩
  | withList h => exact parts_of_withList h
  | ofText hn h =>
      obtain ⟨hname, hlist⟩ := parts_of_ofText h
      exact ⟨Name.ext_chars (hname.trans hn.symm), hlist⟩
  | rename _ m ih => exact ⟨rfl, ih.2⟩
  | setList _ h ih =>
      obtain ⟨hname, hlist⟩ := parts_of_withList h
      exact ⟨hname.trans ih.1, hlist⟩
  | unalias _ hexpansion hbehind h ih =>
      rw [Provider.unalias_of_behind hexpansion hbehind] at h
      obtain rfl := Except.ok.inj h
      exact ⟨rfl, ih.2⟩
  | expand _ _ hexpansion h _ ihz =>
      obtain ⟨-, rfl⟩ := (Provider.unalias_iff_of_expansion hexpansion).mp h
      exact ihz

/-- However a selector was obtained, it is written as the name and the list that it was given
last, and reading this gives it back, with that name and that list; and every selector that is so
can be obtained. A text that is read is the text of the selector that it is read as. A list is
refused for a name just if the two together would not be read as that name and that list. -/
theorem selectors_read_back (K : Kind) :
    (∀ (n : Name K) list x, Obtained n list x ↔
      ofText (n.chars ++ list) = .ok x ∧ x.name = n ∧ x.list = list ∧ x.text = n.chars ++ list) ∧
    (∀ t (x : Selector K), ofText t = .ok x → x.text = t) ∧
    ∀ (n : Name K) list x,
      withList n list = .ok x ↔ ofText (n.chars ++ list) = .ok x ∧ x.name = n := by
  refine ⟨fun n list x => ⟨fun h => ?_, fun ⟨h, hname, _⟩ => ?_⟩,
    fun t x => ofText_eq_ok_iff.mp, fun n list x => withList_eq_ok_iff⟩
  · obtain ⟨rfl, rfl⟩ := h.parts
    exact ⟨ofText_eq_ok_iff.mpr rfl, rfl, rfl, rfl⟩
  · exact .withList (withList_eq_ok_iff.mpr ⟨h, hname⟩)

end PluginForms.Selector
