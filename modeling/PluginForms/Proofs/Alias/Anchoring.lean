import PluginForms.Proofs.Alias.Formation
import PluginForms.Proofs.Alias.Reading
import PluginForms.Proofs.Plugin.Anchoring
import PluginForms.Proofs.Text.Cuts
import PluginForms.Url.Standard

/-!
Listings and aliases, and lists of them, are read with errors that point into the text that was
given. Three levels meet here: a name in its selector or listing, that one in its entry, the entry
in its list. A reader that has come to some rest of its text knows the position of the rest from
the two lengths, so all that is needed of it is that the rest is one.
-/

namespace PluginForms

variable {K : Kind} {urls : Url.Reader} {t rest : Text}

/-- What a url is refused for says nothing about a place in a text. -/
theorem Url.anchors_readListed (word : Text) : Anchors t (readListed urls word) :=
  .bind (.mapError fun _ _ => trivial) fun _ _ => .mapError fun _ _ => trivial

/-! ### Listings -/

theorem Listing.anchors_ofText : Anchors t (ofText urls t : Except PluginError (Listing K)) := by
  obtain ⟨before, hbefore, -⟩ := Text.exists_trimStart t
  obtain ⟨after, hafter, -⟩ := Text.exists_trimEnd (Text.trimStart t)
  rw [ofText]
  generalize Text.trimEnd (Text.trimStart t) = body at hafter ⊢
  dsimp only
  split
  · exact anchors_error rfl
  · have hbody : body.takeWhile (!Text.isBlank ·) ++ body.dropWhile (!Text.isBlank ·) = body :=
      List.takeWhile_append_dropWhile
    obtain ⟨between, hbetween, -⟩ := Text.exists_trimStart (body.dropWhile (!Text.isBlank ·))
    generalize Text.trimStart (body.dropWhile (!Text.isBlank ·)) = name at hbetween ⊢
    generalize body.takeWhile (!Text.isBlank ·) = word at hbody ⊢
    rw [hbetween] at hbody
    refine (Url.anchors_readListed word).bind fun u _ => ?_
    refine Anchors.bind ?_ fun n _ => anchors_ok _
    refine (Name.anchors_ofText name).within (before ++ (word ++ between)) after ?_ ?_
    · rw [hbefore, hafter, ← hbody]
      simp only [List.append_assoc]
    · have htotal := congrArg List.length hbefore
      have htrimmed := congrArg List.length hafter
      have hparts := congrArg List.length hbody
      simp only [List.length_append] at htotal htrimmed hparts ⊢
      omega

/-! ### Aliases -/

namespace Alias

theorem anchors_readName (h : rest <:+ t) :
    Anchors t (readName t rest : Except PluginError (Name K × Text)) := by
  rw [readName.eq_def]
  split
  · exact anchors_error (PluginError.anchoredIn_atRest h _)
  · obtain ⟨before, rfl⟩ := h
    refine Anchors.bind ?_ fun n _ => anchors_ok _
    refine (Name.anchors_ofText _).within before (rest.dropWhile isNamePart) ?_ ?_
    · rw [List.takeWhile_append_dropWhile]
    · rw [List.length_append, Nat.add_sub_cancel]

theorem anchors_endPart (h : rest <:+ t) : Anchors t (endPart t rest) := by
  rw [endPart.eq_def]
  split
  · exact anchors_ok ()
  · split
    · exact anchors_ok ()
    · exact anchors_error (PluginError.anchoredIn_atRest h _)

theorem anchors_readSelector (h : rest <:+ t) :
    Anchors t (readSelector t rest : Except PluginError (Selector K × Text)) := by
  rw [readSelector]
  refine (anchors_readName h).bind ?_
  rintro ⟨n, after⟩ -
  dsimp only
  -- what is cut off the text is a selector again, so reading it cannot fail
  split
  · split
    · rename_i hopen _ inner left hsplit
      have henclosed : Enclosed (after.takeWhile Text.isBlank ++ inner) :=
        ⟨_, inner, rfl, List.all_takeWhile, Text.Nesting.balanced_of_splitBalanced hsplit⟩
      refine Anchors.bind (anchors_ok _) fun part hpart => ?_
      obtain rfl := Except.ok.inj hpart
      dsimp only
      rw [Selector.ofText_append n henclosed.opensList]
      exact anchors_ok _
    · exact anchors_error rfl
  · refine Anchors.bind (anchors_ok _) fun part hpart => ?_
    obtain rfl := Except.ok.inj hpart
    dsimp only
    rw [Selector.ofText_append n rfl]
    exact anchors_ok _

theorem anchors_readUrl : Anchors t (readUrl urls rest) := by
  rw [readUrl.eq_def]
  split
  · exact anchors_ok _
  · exact (Url.anchors_readListed _).bind fun u _ => anchors_ok _

theorem suffix_of_readUrl {u : Option ListedUrl} {after : Text}
    (h : readUrl urls rest = .ok (u, after)) : after <:+ rest := by
  rw [readUrl.eq_def] at h
  split at h
  · cases h
    exact List.nil_suffix
  · obtain ⟨v, -, hpair⟩ := ok_bind_iff.mp h
    obtain ⟨-, rfl⟩ := Prod.mk.inj (ok_pure_iff.mp hpair)
    exact List.dropWhile_suffix _

theorem anchors_ofText : Anchors t (ofText urls t : Except PluginError (Alias K)) := by
  have hbody : Text.trimStart t <:+ t := List.dropWhile_suffix _
  rw [ofText]
  refine (anchors_readName hbody).bind ?_
  rintro ⟨n, rest⟩ hname
  have hrest : rest <:+ t :=
    .trans ⟨n.chars, (readName_eq_ok_iff.mp hname).1.symm⟩ hbody
  refine (anchors_endPart hrest).bind fun _ _ => ?_
  dsimp only
  split
  · exact anchors_ok _
  · have hselector : Text.trimStart rest <:+ t := (List.dropWhile_suffix _).trans hrest
    refine (anchors_readSelector hselector).bind ?_
    rintro ⟨s, rest'⟩ hs
    have hrest' : rest' <:+ t := .trans ⟨s.text, (parts_of_readSelector hs).1.symm⟩ hselector
    refine (anchors_endPart hrest').bind fun _ _ => ?_
    refine anchors_readUrl.bind ?_
    rintro ⟨u, after⟩ hurl
    dsimp only
    split
    · exact anchors_ok _
    · have hafter : Text.trimStart after <:+ t :=
        (List.dropWhile_suffix _).trans ((suffix_of_readUrl hurl).trans
          ((List.dropWhile_suffix _).trans hrest'))
      exact anchors_error (PluginError.anchoredIn_atRest hafter _)

end Alias

/-! ### Lists -/

/-- An entry stands in its list where it is said to begin, so its errors are moved to the right
place. -/
theorem Catalog.anchors_readEntries {α : Type} {read : Text → Except PluginError α}
    (h : ∀ entry, Anchors entry (read entry)) : Anchors t (readEntries read t) := by
  refine Anchors.mapM ?_
  rintro ⟨start, entry⟩ hentry
  obtain ⟨before, after, ht, hstart⟩ := Text.exists_of_mem_splitEntries hentry
  exact (h entry).within before after ht hstart

theorem Catalog.anchors_ofText : Anchors t (ofText urls t : Except PluginError (Catalog K)) := by
  rw [ofText]
  split
  · exact anchors_ok _
  · refine (anchors_readEntries fun _ => Listing.anchors_ofText).bind fun ls _ e he => ?_
    obtain ⟨names, rfl, -⟩ := error_of_ofListings he
    exact trivial

theorem AliasSet.anchors_ofText : Anchors t (ofText urls t : Except PluginError (AliasSet K)) := by
  rw [ofText]
  split
  · exact anchors_ok _
  · refine (Catalog.anchors_readEntries fun _ => Alias.anchors_ofText).bind fun as _ e he => ?_
    obtain ⟨fault, rfl⟩ := error_ofAliases he
    exact trivial

/-- Whatever text is refused as a listing, a catalog, an alias or a set of aliases: an error about
a character is about the one that stands at its position in that text, and an error about the end
of a text is about the end of that text. -/
theorem errors_point_into_text (K : Kind) (urls : Url.Reader) (t : Text) :
    Anchors t (Listing.ofText urls t : Except PluginError (Listing K)) ∧
    Anchors t (Catalog.ofText urls t : Except PluginError (Catalog K)) ∧
    Anchors t (Alias.ofText urls t : Except PluginError (Alias K)) ∧
    Anchors t (AliasSet.ofText urls t : Except PluginError (AliasSet K)) :=
  ⟨Listing.anchors_ofText, Catalog.anchors_ofText, Alias.anchors_ofText, AliasSet.anchors_ofText⟩

namespace SpacedSample

def kind : Kind := ⟨"counter".toList, []⟩

/-- The second name begins with a digit, after a character of several bytes, wide white space and a
tab. -/
def list : Text := "urn:é one,\u3000urn:two\t2".toList

end SpacedSample

open SpacedSample in
theorem errors_point_into_text_in_second_entry :
    (Catalog.ofText Url.standard list : Except PluginError (Catalog kind)) =
      .error (.invalidCharacter list '2' 19) ∧
    (PluginError.invalidCharacter list '2' 19).AnchoredIn list := by
  have hrefused : (Catalog.ofText Url.standard list : Except PluginError (Catalog kind)) =
      .error (.invalidCharacter list '2' 19) := by decide +kernel
  obtain ⟨-, hcatalog, -⟩ := errors_point_into_text kind Url.standard list
  exact ⟨hrefused, hcatalog _ hrefused⟩

end PluginForms
