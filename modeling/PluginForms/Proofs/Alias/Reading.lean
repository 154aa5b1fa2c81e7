import PluginForms.Alias.Basic
import PluginForms.Proofs.Selector.Splitting
import PluginForms.Proofs.Url.Lawful

/-!
The readers of the parts of an alias, seen from both sides: what a part that was read is
like, and that a part like that is read from its text whatever stands after it. A text is
read as an alias if it spells the alias, and in no other way. Every alias that was read is
canonical, and the text of a canonical alias spells it.
-/

namespace PluginForms

open Text (Stops Nesting)

variable {K : Kind}

/-! ### Selectors -/

/-- The list is what is taken for one where more may follow: balanced parentheses, and the
white space before them. -/
def Enclosed (list : Text) : Prop :=
  ∃ gap inner, list = gap ++ inner ∧ gap.all Text.isBlank = true ∧ Nesting.Balanced inner

theorem Enclosed.opensList {list : Text} (h : Enclosed list) : opensList list = true := by
  obtain ⟨gap, inner, rfl, hgap, body, rfl, -⟩ := h
  exact opensList_append hgap rfl

namespace Alias

variable {urls : Url.Reader} {t rest rest' : Text} {n : Name K} {s : Selector K}
  {u : Option ListedUrl} {a : Alias K}

/-! ### Parts -/

theorem readName_eq_ok_iff :
    readName t rest = .ok (n, rest') ↔ rest = n.chars ++ rest' ∧ Stops isNamePart rest' := by
  constructor
  · intro h
    rw [readName] at h
    split at h
    · contradiction
    · obtain ⟨m, hm, hpair⟩ := ok_bind_iff.mp h
      obtain ⟨rfl, rfl⟩ := Prod.mk.inj (ok_pure_iff.mp hpair)
      rw [ok_mapError_iff] at hm
      refine ⟨?_, Text.stops_dropWhile rest⟩
      rw [Name.chars_of_ofText hm]
      exact List.takeWhile_append_dropWhile.symm
  · rintro ⟨rfl, hstops⟩
    rw [readName, Text.takeWhile_run n.all_isNamePart hstops,
      Text.dropWhile_run n.all_isNamePart hstops]
    split
    · rename_i hnil
      exact absurd hnil (Text.isWord_name n).ne_nil
    · rw [Name.ofText_chars]
      rfl

theorem endPart_eq_ok_iff : endPart t rest = .ok () ↔ Stops (!Text.isBlank ·) rest := by
  cases rest with
  | nil => exact iff_of_true rfl Text.stops_nil
  | cons c rest =>
      rw [endPart]
      by_cases hblank : Text.isBlank c = true
      · rw [if_pos hblank]
        refine iff_of_true rfl (Text.stops_cons ?_)
        rw [hblank]
        rfl
      · rw [if_neg hblank]
        refine iff_of_false (fun h => ?_) fun h => hblank ?_
        · contradiction
        · have hc := h c rest rfl
          simpa using hc

/-- A list that is left out: nothing after the name can be read as one. -/
def Bare (rest : Text) : Prop :=
  Stops isNamePart rest ∧ ∀ body, Text.trimStart rest ≠ '(' :: body

theorem parts_of_readSelector (h : readSelector t rest = .ok (s, rest')) :
    rest = s.text ++ rest' ∧ (Enclosed s.list ∨ s.list = [] ∧ Bare rest') := by
  rw [readSelector] at h
  obtain ⟨⟨n, after⟩, hname, h⟩ := ok_bind_iff.mp h
  obtain ⟨rfl, hstops⟩ := readName_eq_ok_iff.mp hname
  dsimp only at h
  split at h
  · rename_i body hopen
    split at h
    · rename_i inner left hsplit
      obtain ⟨_, hpart, h⟩ := ok_bind_iff.mp h
      obtain rfl := ok_pure_iff.mp hpart
      obtain ⟨s', hs', hpair⟩ := ok_bind_iff.mp h
      rw [ok_mapError_iff] at hs'
      obtain ⟨rfl, rfl⟩ := Prod.mk.inj (ok_pure_iff.mp hpair)
      have henclosed : Enclosed (after.takeWhile Text.isBlank ++ inner) :=
        ⟨_, inner, rfl, List.all_takeWhile, Nesting.balanced_of_splitBalanced hsplit⟩
      have hafter : after = after.takeWhile Text.isBlank ++ inner ++ left := by
        calc after = after.takeWhile Text.isBlank ++ after.dropWhile Text.isBlank :=
              List.takeWhile_append_dropWhile.symm
          _ = after.takeWhile Text.isBlank ++ (inner ++ left) := by
              rw [hopen, Nesting.eq_append_of_splitBalanced hsplit]
          _ = after.takeWhile Text.isBlank ++ inner ++ left := (List.append_assoc _ _ _).symm
      rw [Selector.ofText_append n henclosed.opensList] at hs'
      cases hs'
      refine ⟨?_, .inl henclosed⟩
      rw [Selector.text, List.append_assoc, ← hafter]
    · contradiction
  · rename_i hclosed
    obtain ⟨_, hpart, h⟩ := ok_bind_iff.mp h
    obtain rfl := ok_pure_iff.mp hpart
    obtain ⟨s', hs', hpair⟩ := ok_bind_iff.mp h
    rw [ok_mapError_iff] at hs'
    obtain ⟨rfl, rfl⟩ := Prod.mk.inj (ok_pure_iff.mp hpair)
    have hbare : Selector.ofText (n.chars ++ []) = .ok (.bare n) := Selector.ofText_append n rfl
    rw [hbare] at hs'
    cases hs'
    refine ⟨?_, .inr ⟨rfl, hstops, hclosed⟩⟩
    rw [Selector.text, Selector.bare, List.append_nil]

theorem readSelector_of_enclosed (h : Enclosed s.list) :
    readSelector t (s.text ++ rest') = .ok (s, rest') := by
  obtain ⟨gap, inner, hlist, hgap, body, rfl, hsplit⟩ := h
  have hafter : s.list ++ rest' = gap ++ '(' :: (body ++ rest') := by
    rw [hlist, List.append_assoc, List.cons_append]
  have hparen : Stops Text.isBlank ('(' :: (body ++ rest')) := Text.stops_cons rfl
  have hne : s.list ≠ [] := by
    rw [hlist]
    exact List.append_ne_nil_of_right_ne_nil gap (List.cons_ne_nil _ _)
  have hname : readName t (s.text ++ rest') = .ok (s.name, s.list ++ rest') :=
    readName_eq_ok_iff.mpr ⟨List.append_assoc _ _ _, (stops_of_opensList s.opens).append hne rest'⟩
  have htaken : Nesting.start.splitBalanced ('(' :: (body ++ rest')) =
      some ('(' :: body, rest') := Nesting.splitBalanced_append hsplit rest'
  rw [readSelector]
  refine ok_bind_iff.mpr ⟨_, hname, ?_⟩
  dsimp only
  rw [hafter, Text.takeWhile_run hgap hparen, Text.dropWhile_run hgap hparen]
  simp only [htaken]
  refine ok_bind_iff.mpr ⟨_, rfl, ?_⟩
  dsimp only
  rw [← hlist, Selector.ofText_append s.name s.opens]
  rfl

theorem readSelector_of_bare (hnil : s.list = []) (h : Bare rest') :
    readSelector t (s.text ++ rest') = .ok (s, rest') := by
  have hname : readName t (s.text ++ rest') = .ok (s.name, rest') := by
    rw [Selector.text, hnil, List.append_nil]
    exact readName_eq_ok_iff.mpr ⟨rfl, h.1⟩
  rw [readSelector]
  refine ok_bind_iff.mpr ⟨_, hname, ?_⟩
  dsimp only
  split
  · rename_i body hopen
    exact absurd hopen (h.2 body)
  · refine ok_bind_iff.mpr ⟨_, rfl, ?_⟩
    dsimp only
    rw [← hnil, Selector.ofText_append s.name s.opens]
    rfl

theorem readSelector_eq_ok_iff : readSelector t rest = .ok (s, rest') ↔
    rest = s.text ++ rest' ∧ (Enclosed s.list ∨ s.list = [] ∧ Bare rest') := by
  constructor
  · exact parts_of_readSelector
  · rintro ⟨rfl, henclosed | ⟨hnil, hbare⟩⟩
    · exact readSelector_of_enclosed henclosed
    · exact readSelector_of_bare hnil hbare

/-- What stands after a selector: a word that is read as a url, if there is one, and white
space around it. -/
inductive Tail (urls : Url.Reader) : Text → Option ListedUrl → Prop
  | blank {after : Text} (hafter : after.all Text.isBlank = true) : Tail urls after none
  | word {between word after : Text} {v : ListedUrl}
      (hbetween : Text.IsGap between) (hword : Text.IsWord word)
      (hafter : after.all Text.isBlank = true) (hurl : Url.readListed urls word = .ok v) :
      Tail urls (between ++ (word ++ after)) (some v)

theorem Tail.stops (h : Tail urls rest u) : Stops (!Text.isBlank ·) rest := by
  cases h with
  | blank hafter => exact Text.stops_of_blank hafter
  | word hbetween hword hafter hurl => exact hbetween.stops _

theorem Tail.readUrl (h : Tail urls rest u) : ∃ after,
    readUrl urls (Text.trimStart rest) = .ok (u, after) ∧ Text.trimStart after = [] := by
  cases h with
  | blank hafter =>
      rw [Text.trimStart_eq_nil_iff.mpr hafter]
      exact ⟨[], rfl, rfl⟩
  | @word between word after v hbetween hword hafter hurl =>
      have hends : Stops (!Text.isBlank ·) after := Text.stops_of_blank hafter
      rw [Text.trimStart_append hbetween.blank (hword.stops after), Alias.readUrl]
      · rw [Text.takeWhile_run hword.unbroken hends, Text.dropWhile_run hword.unbroken hends, hurl]
        exact ⟨after, rfl, Text.trimStart_eq_nil_iff.mpr hafter⟩
      · exact List.append_ne_nil_of_left_ne_nil hword.ne_nil after

theorem tail_of_readUrl (hends : Stops (!Text.isBlank ·) rest)
    (h : readUrl urls (Text.trimStart rest) = .ok (u, rest'))
    (hrest : Text.trimStart rest' = []) : Tail urls rest u := by
  obtain ⟨between, hsplit, hbetween⟩ := Text.exists_trimStart rest
  have hbegins : Stops Text.isBlank (Text.trimStart rest) := Text.stops_trimStart rest
  rw [Alias.readUrl.eq_def] at h
  split at h
  · rename_i hnil
    cases h
    exact .blank (Text.trimStart_eq_nil_iff.mp hnil)
  · rename_i hne
    generalize Text.trimStart rest = body at h hsplit hbegins hne
    obtain ⟨v, hurl, hpair⟩ := ok_bind_iff.mp h
    obtain ⟨rfl, rfl⟩ := Prod.mk.inj (ok_pure_iff.mp hpair)
    have hbody : body = body.takeWhile (!Text.isBlank ·) ++ body.dropWhile (!Text.isBlank ·) :=
      List.takeWhile_append_dropWhile.symm
    have hword := Text.isWord_takeWhile hbegins hne
    rw [hsplit] at hends ⊢
    -- the selector has ended where the url begins, so white space is between them
    have hgap := Text.isGap_of_stops hbetween hends hbegins hne
    rw [hbody]
    exact .word hgap hword (Text.trimStart_eq_nil_iff.mp hrest) hurl

/-! ### Whole aliases -/

/-- The text is the alias written in its parts, with white space around and between them. -/
inductive Spelling (urls : Url.Reader) : Text → Alias K → Prop
  | plain {before after : Text} (n : Name K) (hbefore : before.all Text.isBlank = true)
      (hafter : after.all Text.isBlank = true) :
      Spelling urls (before ++ (n.chars ++ after)) (.plain n)
  | standsFor {before between tail : Text} {u : Option ListedUrl} (n : Name K) (s : Selector K)
      (hbefore : before.all Text.isBlank = true) (hbetween : Text.IsGap between)
      (hs : Enclosed s.list ∨ s.list = [] ∧ Bare tail)
      (htail : Tail urls tail u) :
      Spelling urls (before ++ (n.chars ++ (between ++ (s.text ++ tail)))) (.standsFor n s u)

theorem readName_append (n : Name K) (h : Stops (!Text.isBlank ·) rest) :
    readName t (n.chars ++ rest) = .ok (n, rest) :=
  readName_eq_ok_iff.mpr ⟨rfl, Text.stops_isNamePart h⟩

theorem ofText_of_spelling (h : Spelling urls t a) : ofText urls t = .ok a := by
  cases h with
  | @plain before after n hbefore hafter =>
      have hends : Stops (!Text.isBlank ·) after := Text.stops_of_blank hafter
      rw [ofText, Text.trimStart_append hbefore ((Text.isWord_name n).stops after)]
      refine ok_bind_iff.mpr ⟨_, readName_append n hends, ?_⟩
      refine ok_bind_iff.mpr ⟨(), endPart_eq_ok_iff.mpr hends, ?_⟩
      dsimp only
      rw [Text.trimStart_eq_nil_iff.mpr hafter]
      rfl
  | @standsFor before between tail u n s hbefore hbetween hs htail =>
      have hends : Stops (!Text.isBlank ·) (between ++ (s.text ++ tail)) := hbetween.stops _
      have hbegins : Stops Text.isBlank (s.text ++ tail) := by
        rw [Selector.text, List.append_assoc]
        exact (Text.isWord_name s.name).stops _
      obtain ⟨after, hurl, hafter⟩ := htail.readUrl
      rw [ofText, Text.trimStart_append hbefore ((Text.isWord_name n).stops _)]
      refine ok_bind_iff.mpr ⟨_, readName_append n hends, ?_⟩
      refine ok_bind_iff.mpr ⟨(), endPart_eq_ok_iff.mpr hends, ?_⟩
      dsimp only
      rw [Text.trimStart_append hbetween.blank hbegins]
      split
      · rename_i hnil
        exact absurd hnil (List.append_ne_nil_of_left_ne_nil s.text_ne_nil tail)
      · refine ok_bind_iff.mpr ⟨_, readSelector_eq_ok_iff.mpr ⟨rfl, hs⟩, ?_⟩
        refine ok_bind_iff.mpr ⟨(), endPart_eq_ok_iff.mpr htail.stops, ?_⟩
        refine ok_bind_iff.mpr ⟨_, hurl, ?_⟩
        dsimp only
        rw [hafter]
        rfl

theorem spelling_of_ofText (h : ofText urls t = .ok a) : Spelling urls t a := by
  obtain ⟨before, hsplit, hbefore⟩ := Text.exists_trimStart t
  rw [ofText] at h
  obtain ⟨⟨n, rest⟩, hname, h⟩ := ok_bind_iff.mp h
  obtain ⟨⟨⟩, hend, h⟩ := ok_bind_iff.mp h
  have hends := endPart_eq_ok_iff.mp hend
  rw [(readName_eq_ok_iff.mp hname).1] at hsplit
  obtain ⟨between, hrest, hbetween⟩ := Text.exists_trimStart rest
  have hbegins : Stops Text.isBlank (Text.trimStart rest) := Text.stops_trimStart rest
  dsimp only at h
  split at h
  · rename_i hnil
    obtain rfl := ok_pure_iff.mp h
    rw [hsplit]
    exact .plain n hbefore (Text.trimStart_eq_nil_iff.mp hnil)
  · rename_i hne
    obtain ⟨⟨s, tail⟩, hselector, h⟩ := ok_bind_iff.mp h
    obtain ⟨⟨⟩, htail, h⟩ := ok_bind_iff.mp h
    obtain ⟨⟨u, after⟩, hurl, h⟩ := ok_bind_iff.mp h
    obtain ⟨htext, hs⟩ := readSelector_eq_ok_iff.mp hselector
    dsimp only at h
    split at h
    · rename_i hafter
      obtain rfl := ok_pure_iff.mp h
      rw [hrest] at hends
      have hgap := Text.isGap_of_stops hbetween hends hbegins hne
      have htail := tail_of_readUrl (endPart_eq_ok_iff.mp htail) hurl hafter
      rw [hsplit, hrest, htext]
      exact .standsFor n s hbefore hgap hs htail
    · contradiction

theorem ofText_eq_ok_iff : ofText urls t = .ok a ↔ Spelling urls t a :=
  ⟨spelling_of_ofText, ofText_of_spelling⟩

theorem Bare.append_right (h : Bare rest) {gap : Text} (hgap : gap.all Text.isBlank = true) :
    Bare (rest ++ gap) := by
  refine ⟨?_, fun body hopen => ?_⟩
  · by_cases hnil : rest = []
    · rw [hnil]
      exact Text.stops_isNamePart (Text.stops_of_blank hgap)
    · exact h.1.append hnil gap
  · obtain ⟨before, hsplit, hbefore⟩ := Text.exists_trimStart rest
    cases htrim : Text.trimStart rest with
    | nil =>
        have hblank : (rest ++ gap).all Text.isBlank = true := by
          rw [List.all_append, Text.trimStart_eq_nil_iff.mp htrim, hgap]
          rfl
        rw [Text.trimStart_eq_nil_iff.mpr hblank] at hopen
        contradiction
    | cons c u =>
        have hbegins : Stops Text.isBlank (c :: u ++ gap) := by
          rw [← htrim]
          refine (Text.stops_trimStart rest).append ?_ gap
          rw [htrim]
          exact List.cons_ne_nil c u
        rw [hsplit, htrim, List.append_assoc, Text.trimStart_append hbefore hbegins] at hopen
        obtain ⟨rfl, -⟩ := List.cons.inj hopen
        exact h.2 u htrim

theorem Tail.append_right (h : Tail urls rest u) {gap : Text}
    (hgap : gap.all Text.isBlank = true) : Tail urls (rest ++ gap) u := by
  cases h with
  | blank hafter => exact .blank (by rw [List.all_append, hafter, hgap]; rfl)
  | word hbetween hword hafter hurl =>
      rw [List.append_assoc, List.append_assoc]
      exact .word hbetween hword (by rw [List.all_append, hafter, hgap]; rfl) hurl

/-- White space after an alias does no harm. -/
theorem Spelling.append_right (h : Spelling urls t a) {gap : Text}
    (hgap : gap.all Text.isBlank = true) : Spelling urls (t ++ gap) a := by
  cases h with
  | plain n hbefore hafter =>
      rw [List.append_assoc, List.append_assoc]
      exact .plain n hbefore (by rw [List.all_append, hafter, hgap]; rfl)
  | standsFor n s hbefore hbetween hs htail =>
      simp only [List.append_assoc]
      refine .standsFor n s hbefore hbetween ?_ (htail.append_right hgap)
      exact hs.imp_right fun ⟨hnil, hbare⟩ => ⟨hnil, hbare.append_right hgap⟩

/-- White space before an alias does no harm. -/
theorem Spelling.append_left (h : Spelling urls t a) {gap : Text}
    (hgap : gap.all Text.isBlank = true) : Spelling urls (gap ++ t) a := by
  cases h with
  | plain n hbefore hafter =>
      rw [← List.append_assoc]
      exact .plain n (by rw [List.all_append, hgap, hbefore]; rfl) hafter
  | standsFor n s hbefore hbetween hs htail =>
      rw [← List.append_assoc]
      exact .standsFor n s (by rw [List.all_append, hgap, hbefore]; rfl) hbetween hs htail

theorem Spelling.allBlank_eq_false (h : Spelling urls t a) : Text.allBlank t = false := by
  cases h with
  | plain n => exact (Text.isWord_name n).allBlank_eq_false _ _
  | standsFor n => exact (Text.isWord_name n).allBlank_eq_false _ _

/-! ### Canonical aliases -/

/-- What every alias that was read is like, and what makes one read back: its list is one
that the reader takes, its url is settled. -/
def Canonical (urls : Url.Reader) : Alias K → Prop
  | plain _ => True
  | standsFor _ s u => (s.list = [] ∨ Enclosed s.list) ∧ ∀ v ∈ u, Url.Settled urls v

theorem Spelling.canonical (hurls : Url.Lawful urls) (h : Spelling urls t a) :
    a.Canonical urls := by
  cases h with
  | plain n => exact trivial
  | standsFor n s hbefore hbetween hs htail =>
      refine ⟨hs.symm.imp_left And.left, ?_⟩
      cases htail with
      | blank => exact nofun
      | word _ hword _ hurl =>
          intro v hv
          obtain rfl := Option.some.inj hv
          exact hurls.settled_of_readListed hword.unbroken hurl

/-- The url after the selector, as the alias writes it. -/
def urlText (u : Option ListedUrl) : Text := u.elim [] fun u => ' ' :: u.text

/-- A url cannot be read as a list, since it begins with a letter. -/
theorem bare_urlText (hu : ∀ v ∈ u, Url.Settled urls v) : Bare (urlText u) := by
  cases u with
  | none => exact ⟨Text.stops_nil, nofun⟩
  | some v =>
      obtain ⟨c, rest, htext, hc⟩ := (hu v rfl).exists_cons
      refine ⟨Text.stops_cons rfl, fun body hopen => ?_⟩
      have htrim : Text.trimStart (' ' :: v.text) = c :: rest := by
        rw [htext]
        exact Text.trimStart_append Text.isGap_space.blank (Text.stops_of_isNameInitial hc)
      obtain ⟨rfl, -⟩ := List.cons.inj (htrim.symm.trans hopen)
      contradiction

theorem tail_urlText (hu : ∀ v ∈ u, Url.Settled urls v) : Tail urls (urlText u) u := by
  cases u with
  | none => exact .blank rfl
  | some v =>
      have hv := hu v rfl
      have hword : urlText (some v) = [' '] ++ (v.text ++ []) := by
        rw [List.append_nil]
        rfl
      rw [hword]
      exact .word Text.isGap_space hv.isWord rfl hv.readListed_text

/-- A canonical alias is spelled by its text. -/
theorem spelling_text (ha : a.Canonical urls) : Spelling urls a.text a := by
  cases a with
  | plain n =>
      have hparts : (plain n).text = [] ++ (n.chars ++ []) := (List.append_nil _).symm
      rw [hparts]
      exact .plain n rfl rfl
  | standsFor n s u =>
      have hparts : (standsFor n s u).text =
          [] ++ (n.chars ++ ([' '] ++ (s.text ++ urlText u))) := by
        rw [text, List.append_assoc]
        rfl
      rw [hparts]
      refine .standsFor n s rfl Text.isGap_space ?_ (tail_urlText ha.2)
      exact ha.1.symm.imp_right fun hnil => ⟨hnil, bare_urlText ha.2⟩

end Alias

end PluginForms
