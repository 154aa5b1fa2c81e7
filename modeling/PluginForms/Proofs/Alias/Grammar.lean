import PluginForms.Proofs.Alias.RoundTrip
import PluginForms.Proofs.Selector.Unambiguous
import PluginForms.Proofs.Url.Opening

/-!
The grammar of aliases:

    alias    = ws* name ( ws+ selector ( ws+ url )? )? ws*
    selector = name ( ws* list )?

A list goes from its opening parenthesis to the first one that closes it outside of string
literals; a url is a whole word. A selector and a url both may come after white space, but no url
begins with a parenthesis, so what does is the list of the selector.

As in the grammar of parameters, a derivation keeps every character it was made from.
-/

namespace PluginForms.Grammar

open Text (Stops)

variable {K : Kind} {urls : Url.Reader} {t t' : Text}

/-- White space, at least one character of it. -/
structure Gap extends Blanks where
  nonempty : text ≠ []

structure ClosedList where
  gap : Blanks
  list : Text
  closed : Text.Closed list

structure SelectorForm (K : Kind) where
  name : Name K
  list? : Option ClosedList

/-- A word that is read as a url, the commas of which are encoded if there are any. -/
structure UrlForm (urls : Url.Reader) where
  gap : Gap
  word : Text
  isWord : Text.IsWord word
  parsed : Url
  read : urls word = .ok parsed
  url : ListedUrl
  encoded : url.toUrl = parsed ∨
    ',' ∈ parsed.text ∧ urls (Url.encodeCommas parsed.text) = .ok url.toUrl

/-- What the name of an alias stands for. -/
structure Binding (urls : Url.Reader) (K : Kind) where
  gap : Gap
  selector : SelectorForm K
  url? : Option (UrlForm urls)

structure AliasForm (urls : Url.Reader) (K : Kind) where
  before : Blanks
  name : Name K
  binding? : Option (Binding urls K)
  after : Blanks

/-! ### What is derived -/

def ClosedList.text (l : ClosedList) : Text := l.gap.text ++ l.list

def SelectorForm.listText (s : SelectorForm K) : Text := s.list?.elim [] ClosedList.text

def SelectorForm.text (s : SelectorForm K) : Text := s.name.chars ++ s.listText

def UrlForm.text (u : UrlForm urls) : Text := u.gap.text ++ u.word

/-- The url and the white space behind it. -/
def urlTail (u : Option (UrlForm urls)) (after : Blanks) : Text :=
  u.elim [] UrlForm.text ++ after.text

def Binding.text (b : Binding urls K) (after : Blanks) : Text :=
  b.gap.text ++ (b.selector.text ++ urlTail b.url? after)

def bindingTail (b : Option (Binding urls K)) (after : Blanks) : Text :=
  b.elim after.text (·.text after)

def AliasForm.text (f : AliasForm urls K) : Text :=
  f.before.text ++ (f.name.chars ++ bindingTail f.binding? f.after)

/-- The alias is the one that the form writes down, the text of its selector included: it is plain
without a selector, a new name of a plugin with a selector that has no list, and an abbreviation
with one that has. -/
structure AliasForm.Determines (f : AliasForm urls K) (a : Alias K) : Prop where
  name : a.name = f.name
  selector : a.selector?.map (·.text) = f.binding?.map (·.selector.text)
  url : a.url? = f.binding?.bind fun b => b.url?.map (·.url)
  plain : a.isPlain = true ↔ f.binding? = none
  target (m : Name K) : a.target? = some m ↔
    ∃ b, f.binding? = some b ∧ b.selector.list? = none ∧ b.selector.name = m
  expansion (x : Selector K) : a.expansion? = some x ↔
    ∃ b, f.binding? = some b ∧ b.selector.list?.isSome = true ∧ b.selector.text = x.text

/-! ### Where the parts end -/

theorem Blanks.ext_text {gap gap' : Blanks} (h : gap.text = gap'.text) : gap = gap' := by
  obtain ⟨gap, hgap⟩ := gap
  obtain rfl : gap = gap'.text := h
  rfl

theorem Blanks.stops (gap : Blanks) : Stops (!Text.isBlank ·) gap.text :=
  Text.stops_of_blank gap.blank

namespace Gap

theorem isGap (g : Gap) : Text.IsGap g.text := ⟨g.nonempty, g.blank⟩

theorem eq_of_stops {g g' : Gap} (h : g.text ++ t = g'.text ++ t')
    (ht : Stops Text.isBlank t) (ht' : Stops Text.isBlank t') : g = g' ∧ t = t' := by
  obtain ⟨gap, hne⟩ := g
  obtain ⟨gap', hne'⟩ := g'
  obtain ⟨rfl, rfl⟩ := Blanks.eq_of_stops h ht ht'
  exact ⟨rfl, rfl⟩

/-- White space at the end of a text is not the white space before another part. -/
theorem ne_blanks (g : Gap) {after : Blanks} (ht : Stops Text.isBlank t) (hne : t ≠ []) :
    g.text ++ t ≠ after.text := by
  intro h
  have hrun : g.text ++ t = after.text ++ [] := by rw [h, List.append_nil]
  exact hne (Text.run_unique g.blank after.blank ht Text.stops_nil hrun).2

end Gap

namespace ClosedList

theorem exists_cons (l : ClosedList) : ∃ body, l.list = '(' :: body := l.closed.opens

theorem stops (l : ClosedList) (t : Text) : Stops Text.isBlank (l.list ++ t) := by
  obtain ⟨body, hbody⟩ := l.exists_cons
  rw [hbody]
  exact Text.stops_cons (by decide)

/-- A closed list is not a part of another one. -/
theorem eq_of_text {l l' : ClosedList} (h : l.text ++ t = l'.text ++ t') : l = l' ∧ t = t' := by
  obtain ⟨gap, list, hclosed⟩ := l
  obtain ⟨gap', list', hclosed'⟩ := l'
  rw [text, text, List.append_assoc, List.append_assoc] at h
  obtain ⟨rfl, hlists⟩ := Blanks.eq_of_stops h (ClosedList.stops ⟨gap, list, hclosed⟩ t)
    (ClosedList.stops ⟨gap', list', hclosed'⟩ t')
  -- a scan of the one text takes both lists
  have hsplit := Text.Nesting.splitBalanced_append (Text.closed_iff.mp hclosed).2 t
  have hsplit' := Text.Nesting.splitBalanced_append (Text.closed_iff.mp hclosed').2 t'
  rw [hlists, hsplit'] at hsplit
  obtain ⟨rfl, rfl⟩ := Prod.mk.inj (Option.some.inj hsplit)
  exact ⟨rfl, rfl⟩

/-- Where no list begins, none is left out. -/
theorem ne_of_bare (l : ClosedList) (hbare : Alias.Bare t') : l.text ++ t ≠ t' := by
  rintro rfl
  obtain ⟨body, hbody⟩ := l.exists_cons
  refine hbare.2 (body ++ t) ?_
  rw [text, List.append_assoc, Text.trimStart_append l.gap.blank (l.stops t), hbody]
  rfl

end ClosedList

namespace SelectorForm

theorem stops_list (s : SelectorForm K) (ht : Stops isNamePart t) :
    Stops isNamePart (s.listText ++ t) := by
  rw [listText]
  cases s.list? with
  | none => exact ht
  | some l =>
      obtain ⟨body, hbody⟩ := l.exists_cons
      change Stops isNamePart (l.gap.text ++ l.list ++ t)
      rw [hbody, List.append_assoc]
      exact l.gap.stops_isNamePart _

theorem eq_of_text {s s' : SelectorForm K} (h : s.text ++ t = s'.text ++ t')
    (ht : Alias.Bare t) (ht' : Alias.Bare t') : s = s' ∧ t = t' := by
  rw [text, text, List.append_assoc, List.append_assoc] at h
  obtain ⟨hname, hlists⟩ := Name.eq_of_text h (s.stops_list ht.1) (s'.stops_list ht'.1)
  obtain ⟨n, list?⟩ := s
  obtain ⟨n', list?'⟩ := s'
  obtain rfl : n = n' := hname
  cases list? with
  | none =>
      cases list?' with
      | none => exact ⟨rfl, hlists⟩
      | some l' => exact absurd hlists.symm (l'.ne_of_bare ht)
  | some l =>
      cases list?' with
      | none => exact absurd hlists (l.ne_of_bare ht')
      | some l' =>
          obtain ⟨rfl, rfl⟩ := ClosedList.eq_of_text hlists
          exact ⟨rfl, rfl⟩

theorem begins (s : SelectorForm K) (t : Text) : Stops Text.isBlank (s.text ++ t) := by
  rw [text, List.append_assoc]
  exact (Text.isWord_name s.name).stops _

theorem append_ne_nil (s : SelectorForm K) (t : Text) : s.text ++ t ≠ [] := by
  rw [text, List.append_assoc]
  exact List.append_ne_nil_of_left_ne_nil (Text.isWord_name s.name).ne_nil _

end SelectorForm

namespace UrlForm

theorem eq_of_text {u u' : UrlForm urls} (h : u.text ++ t = u'.text ++ t')
    (ht : Stops (!Text.isBlank ·) t) (ht' : Stops (!Text.isBlank ·) t') : u = u' ∧ t = t' := by
  rw [text, text, List.append_assoc, List.append_assoc] at h
  obtain ⟨hgap, hwords⟩ := Gap.eq_of_stops h (u.isWord.stops t) (u'.isWord.stops t')
  obtain ⟨hword, rfl⟩ := Text.run_unique u.isWord.unbroken u'.isWord.unbroken ht ht' hwords
  refine ⟨?_, rfl⟩
  -- the word says how it is read, and that says what is listed
  obtain ⟨gap, word, hisWord, parsed, hread, url, hencoded⟩ := u
  obtain ⟨gap', word', hisWord', parsed', hread', url', hencoded'⟩ := u'
  obtain rfl : gap = gap' := hgap
  obtain rfl : word = word' := hword
  obtain rfl := Except.ok.inj (hread.symm.trans hread')
  rw [← Url.listed_eq_ok_iff] at hencoded hencoded'
  obtain rfl := Except.ok.inj (hencoded.symm.trans hencoded')
  rfl

/-- A url is more than white space. -/
theorem ne_blanks (u : UrlForm urls) (t : Text) (after : Blanks) : u.text ++ t ≠ after.text := by
  rw [text, List.append_assoc]
  exact u.gap.ne_blanks (u.isWord.stops t) (List.append_ne_nil_of_left_ne_nil u.isWord.ne_nil t)

end UrlForm

theorem urlTail_some (u : UrlForm urls) (after : Blanks) :
    urlTail (some u) after = u.gap.text ++ (u.word ++ after.text) :=
  List.append_assoc _ _ _

/-- A url comes after white space, and is no list. -/
theorem bare_urlTail (hurls : Url.OpensWithScheme urls) (u : Option (UrlForm urls))
    (after : Blanks) : Alias.Bare (urlTail u after) := by
  cases u with
  | none =>
      refine ⟨Text.stops_isNamePart after.stops, fun body hopen => ?_⟩
      have hnil : Text.trimStart after.text = [] := Text.trimStart_eq_nil_iff.mpr after.blank
      exact List.cons_ne_nil _ _ (hopen.symm.trans hnil)
  | some u =>
      rw [urlTail_some]
      refine ⟨Text.stops_isNamePart (u.gap.isGap.stops _), fun body hopen => ?_⟩
      rw [Text.trimStart_append u.gap.blank (u.isWord.stops _)] at hopen
      obtain ⟨opening, rest, hword, hopening⟩ := hurls u.word u.parsed u.isWord.unbroken u.read
      rw [hword] at hopen
      -- no parenthesis is among the characters up to the colon
      cases opening with
      | nil => exact absurd (List.cons.inj hopen).1 (by decide)
      | cons c opening =>
          obtain ⟨rfl, -⟩ := List.cons.inj hopen
          rw [List.all_cons, Bool.and_eq_true] at hopening
          exact absurd hopening.1 (by decide)

/-! ### No text has two derivations -/

theorem urlTail_inj {u u' : Option (UrlForm urls)} {after after' : Blanks}
    (h : urlTail u after = urlTail u' after') : u = u' ∧ after = after' := by
  cases u with
  | none =>
      cases u' with
      | none => exact ⟨rfl, Blanks.ext_text h⟩
      | some u' => exact absurd h.symm (u'.ne_blanks after'.text after)
  | some u =>
      cases u' with
      | none => exact absurd h (u.ne_blanks after.text after')
      | some u' =>
          obtain ⟨rfl, hafter⟩ := UrlForm.eq_of_text h after.stops after'.stops
          exact ⟨rfl, Blanks.ext_text hafter⟩

theorem Binding.ne_blanks (b : Binding urls K) (after after' : Blanks) :
    b.text after ≠ after'.text :=
  b.gap.ne_blanks (b.selector.begins _) (b.selector.append_ne_nil _)

theorem Binding.text_inj (hurls : Url.OpensWithScheme urls) {b b' : Binding urls K}
    {after after' : Blanks} (h : b.text after = b'.text after') : b = b' ∧ after = after' := by
  obtain ⟨gap, selector, url?⟩ := b
  obtain ⟨gap', selector', url?'⟩ := b'
  obtain ⟨rfl, hselectors⟩ := Gap.eq_of_stops h (selector.begins _) (selector'.begins _)
  obtain ⟨rfl, htails⟩ := SelectorForm.eq_of_text hselectors (bare_urlTail hurls url? after)
    (bare_urlTail hurls url?' after')
  obtain ⟨rfl, rfl⟩ := urlTail_inj htails
  exact ⟨rfl, rfl⟩

theorem bindingTail_inj (hurls : Url.OpensWithScheme urls) {b b' : Option (Binding urls K)}
    {after after' : Blanks} (h : bindingTail b after = bindingTail b' after') :
    b = b' ∧ after = after' := by
  cases b with
  | none =>
      cases b' with
      | none => exact ⟨rfl, Blanks.ext_text h⟩
      | some b' => exact absurd h.symm (b'.ne_blanks after' after)
  | some b =>
      cases b' with
      | none => exact absurd h (b.ne_blanks after after')
      | some b' =>
          obtain ⟨rfl, rfl⟩ := Binding.text_inj hurls h
          exact ⟨rfl, rfl⟩

theorem stops_bindingTail (b : Option (Binding urls K)) (after : Blanks) :
    Stops isNamePart (bindingTail b after) := by
  cases b with
  | none => exact Text.stops_isNamePart after.stops
  | some b => exact Text.stops_isNamePart (b.gap.isGap.stops _)

theorem AliasForm.text_inj (hurls : Url.OpensWithScheme urls) {f g : AliasForm urls K}
    (h : f.text = g.text) : f = g := by
  obtain ⟨before, n, binding?, after⟩ := f
  obtain ⟨before', n', binding?', after'⟩ := g
  obtain ⟨rfl, hnames⟩ := Blanks.eq_of_stops h ((Text.isWord_name n).stops _)
    ((Text.isWord_name n').stops _)
  obtain ⟨rfl, htails⟩ := Name.eq_of_text hnames (stops_bindingTail binding? after)
    (stops_bindingTail binding?' after')
  obtain ⟨rfl, rfl⟩ := bindingTail_inj hurls htails
  rfl

/-! ### What a form stands for -/

namespace SelectorForm

/-- A list that is written is one that a reader can find. -/
theorem enclosed_or_nil (s : SelectorForm K) : Enclosed s.listText ∨ s.listText = [] := by
  rw [listText]
  cases s.list? with
  | none => exact .inr rfl
  | some l =>
      exact .inl ⟨l.gap.text, l.list, rfl, l.gap.blank,
        Text.Nesting.balanced_iff_closed.mpr l.closed⟩

theorem opensList (s : SelectorForm K) : opensList s.listText = true := by
  obtain henclosed | hnil := s.enclosed_or_nil
  · exact henclosed.opensList
  · rw [hnil]
    rfl

def toSelector (s : SelectorForm K) : Selector K := ⟨s.name, s.listText, s.opensList⟩

theorem hasList_toSelector (s : SelectorForm K) : s.toSelector.hasList = s.list?.isSome := by
  change (!Text.allBlank s.listText) = s.list?.isSome
  rw [listText]
  cases s.list? with
  | none => rfl
  | some l =>
      obtain ⟨body, hbody⟩ := l.exists_cons
      change (!Text.allBlank (l.gap.text ++ l.list)) = true
      rw [hbody, Text.allBlank, List.all_append, List.all_cons, l.gap.blank]
      rfl

theorem exists_toSelector {s : Selector K} (h : Enclosed s.list ∨ s.list = []) :
    ∃ form : SelectorForm K, form.toSelector = s := by
  obtain ⟨n, list, hopens⟩ := s
  obtain ⟨gap, inner, rfl, hgap, hinner⟩ | rfl := h
  · exact ⟨⟨n, some ⟨⟨gap, hgap⟩, inner, Text.Nesting.balanced_iff_closed.mp hinner⟩⟩, rfl⟩
  · exact ⟨⟨n, none⟩, rfl⟩

end SelectorForm

theorem UrlForm.readListed_word (u : UrlForm urls) : Url.readListed urls u.word = .ok u.url := by
  rw [Url.readListed, u.read]
  exact ok_mapError_iff.mpr (Url.listed_eq_ok_iff.mpr u.encoded)

theorem tail_urlTail (u : Option (UrlForm urls)) (after : Blanks) :
    Alias.Tail urls (urlTail u after) (u.map (·.url)) := by
  cases u with
  | none => exact .blank after.blank
  | some u =>
      rw [urlTail_some]
      exact .word u.gap.isGap u.isWord after.blank u.readListed_word

theorem exists_urlTail {v : Option ListedUrl} (h : Alias.Tail urls t v) :
    ∃ (u : Option (UrlForm urls)) (after : Blanks), urlTail u after = t ∧ u.map (·.url) = v := by
  cases h with
  | blank hafter => exact ⟨none, ⟨t, hafter⟩, rfl, rfl⟩
  | @word between word after v hbetween hword hafter hurl =>
      obtain ⟨parsed, hparsed, hlisted⟩ := ok_bind_iff.mp hurl
      rw [ok_mapError_iff] at hparsed hlisted
      refine ⟨some ⟨⟨⟨between, hbetween.blank⟩, hbetween.ne_nil⟩, word, hword, parsed, hparsed, v,
        Url.listed_eq_ok_iff.mp hlisted⟩, ⟨after, hafter⟩, List.append_assoc _ _ _, rfl⟩

namespace AliasForm

def toAlias (f : AliasForm urls K) : Alias K :=
  match f.binding? with
  | none => .plain f.name
  | some b => .standsFor f.name b.selector.toSelector (b.url?.map (·.url))

theorem spelling (hurls : Url.OpensWithScheme urls) (f : AliasForm urls K) :
    Alias.Spelling urls f.text f.toAlias := by
  obtain ⟨before, n, binding?, after⟩ := f
  cases binding? with
  | none => exact .plain n before.blank after.blank
  | some b =>
      refine .standsFor n b.selector.toSelector before.blank b.gap.isGap ?_
        (tail_urlTail b.url? after)
      exact b.selector.enclosed_or_nil.imp_right fun hnil => ⟨hnil, bare_urlTail hurls b.url? after⟩

theorem exists_of_spelling {a : Alias K} (h : Alias.Spelling urls t a) :
    ∃ f : AliasForm urls K, f.text = t ∧ f.toAlias = a := by
  cases h with
  | @plain before after n hbefore hafter =>
      exact ⟨⟨⟨before, hbefore⟩, n, none, ⟨after, hafter⟩⟩, rfl, rfl⟩
  | @standsFor before between tail u n s hbefore hbetween hs htail =>
      obtain ⟨selector, rfl⟩ := SelectorForm.exists_toSelector (hs.imp_right And.left)
      obtain ⟨url?, after, rfl, rfl⟩ := exists_urlTail htail
      let binding : Binding urls K := ⟨⟨⟨between, hbetween.blank⟩, hbetween.ne_nil⟩, selector, url?⟩
      exact ⟨⟨⟨before, hbefore⟩, n, some binding, after⟩, rfl, rfl⟩

theorem determines (f : AliasForm urls K) : f.Determines f.toAlias := by
  obtain ⟨before, n, binding?, after⟩ := f
  cases binding? with
  | none =>
      refine ⟨rfl, rfl, rfl, iff_of_true rfl rfl, fun m => ?_, fun x => ?_⟩
      · simp [toAlias, Alias.target?]
      · simp [toAlias, Alias.expansion?]
  | some b =>
      have htext : b.selector.toSelector.text = b.selector.text := rfl
      refine ⟨rfl, rfl, rfl, iff_of_false nofun nofun, fun m => ?_, fun x => ?_⟩
      · rw [toAlias, Alias.target?, b.selector.hasList_toSelector]
        cases hlist : b.selector.list? <;> simp [hlist, SelectorForm.toSelector]
      · rw [toAlias, Alias.expansion?, b.selector.hasList_toSelector]
        cases hlist : b.selector.list? <;> simp [hlist, ← htext, Selector.text_inj]

/-- What is determined is determined as a whole. -/
theorem Determines.eq {f : AliasForm urls K} {a b : Alias K} (ha : f.Determines a)
    (hb : f.Determines b) : a = b := by
  have hname := ha.name.trans hb.name.symm
  have hselector := ha.selector.trans hb.selector.symm
  have hurl := ha.url.trans hb.url.symm
  cases a with
  | plain n =>
      cases b with
      | plain n' => exact congrArg Alias.plain hname
      | standsFor => contradiction
  | standsFor n s u =>
      cases b with
      | plain => contradiction
      | standsFor n' s' u' =>
          obtain rfl := Selector.text_inj.mp (Option.some.inj hselector)
          obtain rfl : n = n' := hname
          obtain rfl : u = u' := hurl
          rfl

theorem ofText_eq_ok_iff (hurls : Url.OpensWithScheme urls) {f : AliasForm urls K} {a : Alias K} :
    Alias.ofText urls f.text = .ok a ↔ f.Determines a := by
  have hread : Alias.ofText urls f.text = .ok f.toAlias :=
    Alias.ofText_of_spelling (f.spelling hurls)
  rw [hread, Except.ok.injEq]
  constructor
  · rintro rfl
    exact f.determines
  · exact f.determines.eq

end AliasForm

/-- A text is read as an alias if and only if the grammar derives it; what is read is what its
derivation says, and it has one derivation only. -/
theorem aliases_follow_grammar (hurls : Url.OpensWithScheme urls) :
    (∀ t : Text, (∃ a : Alias K, Alias.ofText urls t = .ok a) ↔
      ∃ f : AliasForm urls K, f.text = t) ∧
    (∀ (f : AliasForm urls K) (a : Alias K),
      Alias.ofText urls f.text = .ok a ↔ f.Determines a) ∧
    ∀ f g : AliasForm urls K, f.text = g.text → f = g := by
  refine ⟨fun t => ⟨?_, ?_⟩, fun f a => AliasForm.ofText_eq_ok_iff hurls,
    fun f g => AliasForm.text_inj hurls⟩
  · rintro ⟨a, ha⟩
    obtain ⟨f, hf, -⟩ := AliasForm.exists_of_spelling (Alias.spelling_of_ofText ha)
    exact ⟨f, hf⟩
  · rintro ⟨f, rfl⟩
    exact ⟨f.toAlias, (AliasForm.ofText_eq_ok_iff hurls).mpr f.determines⟩

namespace Sample

def kind : Kind := ⟨"counter".toList, []⟩

def text : Text := " letter filter\t( \")\", g() ) URN:x,y ".toList

/-- The list begins after white space and goes on behind the parenthesis in the literal. -/
def letter : Alias kind :=
  .standsFor ⟨"letter".toList, by decide⟩
    ⟨⟨"filter".toList, by decide⟩, "\t( \")\", g() )".toList, by decide⟩
    (some ⟨⟨"urn:x%2Cy".toList⟩, by decide⟩)

end Sample

open Sample in
theorem aliases_follow_grammar_of_library :
    (∃ f : AliasForm Url.standard kind, f.text = text ∧ f.Determines letter) ∧
    ¬ ∃ f : AliasForm Url.standard kind, f.text = "letter filter (urn:a".toList := by
  obtain ⟨haccepts, hdetermines, -⟩ :=
    aliases_follow_grammar (K := kind) Url.opensWithScheme_standard
  constructor
  · have hread : Alias.ofText Url.standard text = .ok letter := by decide +kernel
    obtain ⟨f, hf⟩ := (haccepts text).mp ⟨letter, hread⟩
    rw [← hf] at hread
    exact ⟨f, hf, (hdetermines f letter).mp hread⟩
  · intro hform
    obtain ⟨a, ha⟩ := (haccepts _).mpr hform
    have hrefused : Alias.ofText (K := kind) Url.standard "letter filter (urn:a".toList =
        .error (.endOfText "letter filter (urn:a".toList .closingParenthesis) := by decide +kernel
    rw [hrefused] at ha
    contradiction

end PluginForms.Grammar
