import PluginForms.Proofs.Plugin.Anchoring
import PluginForms.Proofs.Plugin.Success
import PluginForms.Proofs.Text.Words
import PluginForms.Selector.Basic

/-!
How a text is cut into a name and a list. The name goes as far as its characters do, so a text is
the text of one selector or of none. Where it is of none, the error is about the first character
that no selector can have there; the text that the error carries is the whole text if the list is
at fault, and the run of name characters at its start if the name is.
-/

namespace PluginForms

open Text (Stops)

variable {K : Kind} {t : Text}

theorem stops_of_opensList {list : Text} (h : opensList list = true) : Stops isNamePart list := by
  rintro c u rfl
  by_cases hblank : Text.isBlank c = true
  · exact isNamePart_of_isBlank hblank
  · have htrim : Text.trimStart (c :: u) = c :: u := by
      rw [Text.trimStart, List.dropWhile_cons, if_neg hblank]
    rw [opensList, htrim] at h
    rw [beq_iff_eq.mp h]
    rfl

/-- Behind white space a list has to be opened. -/
theorem opensList_append {gap u : Text} {c : Char} (hgap : gap.all Text.isBlank = true)
    (hc : Text.isBlank c = false) : opensList (gap ++ c :: u) = (c == '(') := by
  rw [opensList, Text.trimStart_append hgap (Text.stops_cons hc)]

theorem opensList_of_blank {gap : Text} (hgap : gap.all Text.isBlank = true) :
    opensList gap = true := by
  rw [opensList, Text.trimStart_eq_nil_iff.mpr hgap]

namespace Selector

theorem text_ne_nil (s : Selector K) : s.text ≠ [] :=
  List.append_ne_nil_of_left_ne_nil (Text.isWord_name s.name).ne_nil s.list

/-- A name and a list after it are read as the selector they are. -/
theorem ofText_append (n : Name K) {list : Text} (h : opensList list = true) :
    ofText (n.chars ++ list) = .ok ⟨n, list, h⟩ := by
  have hstops := stops_of_opensList h
  rw [ofText, Text.takeWhile_run n.all_isNamePart hstops,
    Text.dropWhile_run n.all_isNamePart hstops, Name.ofText_chars]
  exact dif_pos h

theorem ofText_eq_ok_iff {s : Selector K} : ofText t = .ok s ↔ s.text = t := by
  constructor
  · intro h
    obtain ⟨n, hn, hlist⟩ := ok_bind_iff.mp h
    rw [withList] at hlist
    split at hlist
    · obtain rfl := Except.ok.inj hlist
      rw [text, Name.chars_of_ofText hn]
      exact List.takeWhile_append_dropWhile
    · contradiction
  · rintro rfl
    exact ofText_append s.name s.opens

theorem text_inj {s s' : Selector K} : s.text = s'.text ↔ s = s' := by
  constructor
  · intro h
    have hread : ofText s'.text = .ok s := ofText_eq_ok_iff.mpr h
    exact Except.ok.inj (hread.symm.trans (ofText_eq_ok_iff.mpr rfl))
  · rintro rfl
    rfl

/-! ### Texts that are refused -/

/-- The text can be continued to a selector up to the position, but not with the character
there. -/
structure FirstFault (K : Kind) (t : Text) (position : Nat) (c : Char) : Prop where
  character : t[position]? = some c
  viable : ∃ (u : Text) (s : Selector K), ofText (t.take position ++ u) = .ok s
  refused : ∀ (u : Text) (s : Selector K), ofText (t.take (position + 1) ++ u) ≠ .ok s

theorem FirstFault.of_parts (pre : Text) {post : Text} {c : Char}
    (hviable : ∃ (u : Text) (s : Selector K), ofText (pre ++ u) = .ok s)
    (hrefused : ∀ (u : Text) (s : Selector K), s.text ≠ pre ++ c :: u) :
    FirstFault K (pre ++ c :: post) pre.length c := by
  have hnext : (pre ++ c :: post).take (pre.length + 1) = pre ++ [c] := by
    rw [List.append_cons, List.take_left' (by simp)]
  refine ⟨by simp, ?_, fun u s hs => ?_⟩
  · rw [List.take_left]
    exact hviable
  · rw [hnext, ofText_eq_ok_iff, ← List.append_cons] at hs
    exact hrefused u s hs

/-- No selector begins with a character that no name begins with. -/
theorem firstFault_of_start {c : Char} (hc : isNameInitial c = false) (post : Text) :
    FirstFault K (c :: post) 0 c := by
  let letter : Name K := ⟨['a'], by decide⟩
  refine FirstFault.of_parts [] ⟨_, bare letter, ofText_append letter rfl⟩ fun u s hs => ?_
  obtain ⟨d, cs, hname, hd, -⟩ := s.name.exists_cons
  rw [text, hname] at hs
  obtain ⟨rfl, -⟩ := List.cons.inj hs
  rw [hc] at hd
  contradiction

/-- After a name nothing but its list is possible. -/
theorem firstFault_after_name {n : Name K} {gap post : Text} {c : Char}
    (hgap : gap.all Text.isBlank = true) (hstops : gap = [] → isNamePart c = false)
    (hblank : Text.isBlank c = false) (hopen : c ≠ '(') :
    FirstFault K (n.chars ++ gap ++ c :: post) (n.chars ++ gap).length c := by
  refine FirstFault.of_parts _ ⟨[], ⟨n, gap, opensList_of_blank hgap⟩, ?_⟩ fun u s hs => ?_
  · rw [List.append_nil]
    exact ofText_append n (opensList_of_blank hgap)
  · have hrest : Stops isNamePart (gap ++ c :: u) := by
      cases gap with
      | nil => exact Text.stops_cons (hstops rfl)
      | cons b gap =>
          rw [List.all_cons, Bool.and_eq_true] at hgap
          exact Text.stops_cons (isNamePart_of_isBlank hgap.1)
    rw [text, List.append_assoc] at hs
    obtain ⟨-, hlist⟩ := Text.run_unique s.name.all_isNamePart n.all_isNamePart
      (stops_of_opensList s.opens) hrest hs
    have hopens := s.opens
    rw [hlist, opensList_append hgap hblank, beq_iff_eq] at hopens
    exact hopen hopens

theorem error_withList {n : Name K} {list : Text} {e : PluginError}
    (h : withList n list = .error e) : ∃ gap c post, list = gap ++ c :: post ∧
      gap.all Text.isBlank = true ∧ Text.isBlank c = false ∧ c ≠ '(' ∧
      e = .invalidCharacter (n.chars ++ list) c (n.chars ++ gap).length := by
  obtain ⟨gap, hlist, hgap⟩ := Text.exists_trimStart list
  have hbegins : Stops Text.isBlank (Text.trimStart list) := Text.stops_trimStart list
  rw [withList] at h
  split at h
  · contradiction
  · rename_i hopens
    obtain rfl := Except.error.inj h
    generalize Text.trimStart list = rest at hlist hbegins ⊢
    subst hlist
    cases rest with
    | nil =>
        rw [List.append_nil, opensList_of_blank hgap] at hopens
        exact absurd rfl hopens
    | cons c post =>
        have hc := hbegins c post rfl
        rw [opensList_append hgap hc, beq_iff_eq] at hopens
        refine ⟨gap, c, post, rfl, hgap, hc, hopens, ?_⟩
        rw [PluginError.atRest, ← List.append_assoc, List.length_append, Nat.add_sub_cancel]

/-- What a text that is no selector is refused for. -/
inductive Misfit (K : Kind) (t : Text) : PluginError → Prop
  | name (h : isName (t.takeWhile isNamePart) = false) :
      Misfit K t (nameFault (t.takeWhile isNamePart))
  | list (n : Name K) (gap : Text) (c : Char) (post : Text) (ht : t = n.chars ++ gap ++ c :: post)
      (hgap : gap.all Text.isBlank = true) (hstops : gap = [] → isNamePart c = false)
      (hblank : Text.isBlank c = false) (hopen : c ≠ '(') :
      Misfit K t (.invalidCharacter t c (n.chars ++ gap).length)

theorem misfit_of_error {e : PluginError}
    (h : (ofText t : Except PluginError (Selector K)) = .error e) : Misfit K t e := by
  have hsplit : t.takeWhile isNamePart ++ t.dropWhile isNamePart = t :=
    List.takeWhile_append_dropWhile
  have hstops : Stops isNamePart (t.dropWhile isNamePart) := Text.stops_dropWhile t
  rw [ofText] at h
  obtain ⟨hname, hok⟩ | ⟨hname, herror⟩ := Name.ofText_cases (K := K) (t.takeWhile isNamePart)
  · rw [hok] at h
    obtain ⟨gap, c, post, hlist, hgap, hc, hopen, rfl⟩ := error_withList h
    dsimp only
    rw [hlist] at hstops
    rw [hsplit]
    refine .list ⟨_, hname⟩ gap c post ?_ hgap ?_ hc hopen
    · rw [List.append_assoc, ← hlist, hsplit]
    · rintro rfl
      exact hstops c post rfl
  · rw [herror] at h
    obtain rfl := Except.error.inj h
    exact .name hname

/-- A text that is refused for a character is refused for the first that no selector can have
there, and that character stands in the text at the position that is reported. The text that is
reported is the whole text if it begins with a letter or has name characters only; else it is cut
off where its first run of name characters ends. -/
theorem refused_for_first_fault {text : Text} {c : Char} {position : Nat}
    (h : (ofText t : Except PluginError (Selector K)) =
      .error (.invalidCharacter text c position)) :
    FirstFault K t position c ∧
      (text = t ↔ (t.head?).any isNameInitial = true ∨ t.all isNamePart = true) ∧
      (text ≠ t → position = 0 ∧ text = t.takeWhile isNamePart) := by
  generalize he : PluginError.invalidCharacter text c position = e at h
  cases misfit_of_error h with
  | name hname =>
      have hsplit : t = t.takeWhile isNamePart ++ t.dropWhile isNamePart :=
        List.takeWhile_append_dropWhile.symm
      have hparts : (t.takeWhile isNamePart).all isNamePart = true := List.all_takeWhile
      have hall : t.takeWhile isNamePart = t ↔ t.all isNamePart = true := by
        rw [List.takeWhile_eq_self_iff, List.all_eq_true]
      generalize t.takeWhile isNamePart = run at he hname hsplit hparts hall ⊢
      obtain hlength | ⟨pre, d, post, rfl, hcharacter, hd⟩ := nameFault_cases run
      · rw [hlength] at he
        contradiction
      · rw [hcharacter] at he
        obtain ⟨rfl, rfl, rfl⟩ := PluginError.invalidCharacter.inj he
        -- all of the run are name characters, so it is its first one that is wrong
        obtain ⟨rfl, hinitial⟩ | hpart := hd
        · rw [List.nil_append, List.cons_append] at hsplit
          have hhead : (t.head?).any isNameInitial = false := by
            rw [hsplit]
            exact hinitial
          refine ⟨?_, ?_, fun _ => ⟨rfl, rfl⟩⟩
          · rw [hsplit]
            exact firstFault_of_start hinitial _
          · rw [hhead, hall]
            simp
        · rw [List.all_append, List.all_cons, hpart] at hparts
          simp at hparts
  | list n gap d post ht hgap hstops hblank hopen =>
      obtain ⟨htext, rfl, rfl⟩ := PluginError.invalidCharacter.inj he
      obtain ⟨b, cs, hn, hb, -⟩ := n.exists_cons
      have hhead : (t.head?).any isNameInitial = true := by
        rw [ht, hn]
        exact hb
      refine ⟨?_, iff_of_true htext (.inl hhead), fun hne => absurd htext hne⟩
      rw [ht]
      exact firstFault_after_name hgap hstops hblank hopen

def sampleKind : Kind := ⟨"counter".toList, []⟩

/-- The white space after the name may be followed by a list only. -/
theorem refused_for_first_fault_after_name :
    (ofText "total tally(1)".toList : Except PluginError (Selector sampleKind)) =
      .error (.invalidCharacter "total tally(1)".toList 't' 6) ∧
    FirstFault sampleKind "total tally(1)".toList 6 't' :=
  ⟨rfl, (refused_for_first_fault rfl).1⟩

/-- The list after a name that begins with a digit is left out of the error. -/
theorem list_is_left_out_of_name_fault :
    (ofText "9a(1)".toList : Except PluginError (Selector sampleKind)) =
      .error (.invalidCharacter "9a".toList '9' 0) ∧
    "9a".toList ≠ "9a(1)".toList :=
  ⟨rfl, by decide⟩

end Selector

end PluginForms
