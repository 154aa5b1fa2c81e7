import PluginForms.Proofs.Alias.Reading
import PluginForms.Proofs.Scan.Basic
import PluginForms.Proofs.Text.Nesting

/-!
The scanner of a single alias. It cuts the selector out of its text, with the list up to the
parenthesis that closes it, and leaves it to others what the list says. Its answer is that of the
reader, which goes by what is left of the text and not by positions.
-/

namespace PluginForms.Scan.Entry

open Text (Nesting Stops)

variable {K : Kind} {α : Type}

/-- Complains about the character at the cursor. -/
def refuseHere (t : Text) : Scan α := do
  match ← peek t with
  | some c => refuse (.invalidCharacter t c (← position))
  | none => refuse (.endOfText t .alias)

def name (t : Text) : Scan (Name K) := do
  let start ← position
  skipWhile t isNamePart
  if start = (← position) then refuseHere t
  else ofExcept ((Name.ofText (← slice t start)).mapError (·.within t start))

def endPart (t : Text) : Scan Unit := do
  match ← peek t with
  | some c => if Text.isBlank c then return () else refuseHere t
  | none => return ()

/-- One character of a list, with the nesting before it. -/
def listRound (t : Text) (n : Nesting) : Scan (Nesting ⊕ Unit) := do
  match ← peek t with
  | some c =>
    forward
    if n.quoting = .outside then
      if c = '(' then return .inl { n with depth := n.depth + 1 }
      else if c = ')' then
        let depth ← less n.depth
        if depth = 0 then return .inr ()
        else return .inl { n with depth }
      else return .inl { n with quoting := n.quoting.step c }
    else return .inl { n with quoting := n.quoting.step c }
  | none => refuse (.endOfText t .closingParenthesis)

def skipList (t : Text) : Scan Unit := loop t (listRound t) .start

/-- The selector that was passed over from `first` on. -/
def cut (t : Text) (first : Nat) : Scan (Selector K) := do
  match Selector.ofText (← slice t first) with
  | .ok s => return s
  | .error e => throw (.fallback (.selector (e.within t first)))

/-- White space after the name belongs to the selector only if a list follows it. -/
def selector (t : Text) : Scan (Selector K) := do
  let start ← position
  let _ ← (name t : Scan (Name K))
  let after ← position
  skipWhile t Text.isBlank
  if (← peek t) = some '(' then skipList t else goTo after
  cut t start

def url? (urls : Url.Reader) (t : Text) : Scan (Option ListedUrl) := do
  match ← peek t with
  | some _ =>
    let start ← position
    skipWhile t (!Text.isBlank ·)
    return some (← ofExcept (Url.readListed urls (← slice t start)))
  | none => return none

def entry (urls : Url.Reader) (t : Text) : Scan (Alias K) := do
  skipWhile t Text.isBlank
  let n ← name t
  endPart t
  skipWhile t Text.isBlank
  if (← peek t) = none then return .plain n
  else
    let s ← selector t
    endPart t
    skipWhile t Text.isBlank
    let u ← url? urls t
    skipWhile t Text.isBlank
    if (← peek t) = none then ofExcept (Alias.ofSelector urls n s (u.map (·.toUrl)))
    else refuseHere t

variable {urls : Url.Reader} {t rest : Text} {start : Nat} {c : Cursor} {Q : α → Cursor → Prop}
  {E : PluginError → Prop}

/-! ### Parts -/

theorem ends_refuseHere (hat : At t c.position rest) (h : E (.atRest t rest .alias)) :
    Ends t start c (refuseHere t : Scan α) Q E := by
  rw [refuseHere, ends_peek hat]
  cases rest with
  | nil => exact ends_refuse h
  | cons b rest =>
      rw [PluginError.atRest, hat.sub_length] at h
      exact ends_refuse h

theorem ends_skipBlanks (hat : At t c.position rest) :
    Ends t start c (skipWhile t Text.isBlank) (fun _ d => At t d.position (Text.trimStart rest))
      E := by
  refine (ends_skipWhile hat).weaken ?_
  rintro - d ⟨gap, rest', rfl, hgap, hblank, rfl⟩
  rw [Text.trimStart_append hgap hblank]
  exact hat.append

theorem ends_name (hat : At t c.position rest) :
    Ends t start c (name t : Scan (Name K))
      (fun n d => ∃ rest', Alias.readName t rest = .ok (n, rest') ∧ At t d.position rest')
      (fun e => (Alias.readName t rest : Except PluginError (Name K × Text)) = .error e) := by
  rw [name, ends_position]
  refine (ends_skipWhile hat).bind ?_
  rintro - d ⟨run, rest', rfl, hrun, hstops, rfl⟩
  have hchars : (run ++ rest').takeWhile isNamePart = run := Text.takeWhile_run hrun hstops
  rw [ends_position]
  cases run with
  | nil =>
      have hread : (Alias.readName t rest' : Except PluginError (Name K × Text)) =
          .error (.atRest t rest' .alias) := by
        rw [Alias.readName]
        split
        · rfl
        · rename_i hne
          exact absurd hchars hne
      have hsame : c.position = c.position + ([] : Text).length := rfl
      rw [if_pos hsame]
      exact ends_refuseHere hat hread
  | cons b run =>
      have hmoved : c.position ≠ c.position + (b :: run).length := by
        rw [List.length_cons]
        omega
      rw [if_neg hmoved]
      refine (ends_slice hat hat.append).bind ?_
      rintro _ d ⟨rfl, rfl⟩
      refine ends_ofExcept.mono ?_ fun e he => ?_
      · rintro n d ⟨hn, rfl⟩
        have hn : n.chars = b :: run := Name.chars_of_ofText (ok_mapError_iff.mp hn)
        refine ⟨rest', Alias.readName_eq_ok_iff.mpr ⟨?_, hstops⟩, hat.append⟩
        rw [hn]
      · rw [Alias.readName, hchars, hat.sub_length]
        simp only
        rw [he]
        rfl

theorem ends_endPart (hat : At t c.position rest) :
    Ends t start c (endPart t) (fun _ d => Alias.endPart t rest = .ok () ∧ d = c)
      (fun e => Alias.endPart t rest = .error e) := by
  rw [endPart, ends_peek hat]
  cases rest with
  | nil => exact ends_pure ⟨rfl, rfl⟩
  | cons b rest =>
      simp only [List.head?_cons, Alias.endPart]
      by_cases hb : Text.isBlank b = true
      · rw [if_pos hb, if_pos hb]
        exact ends_pure ⟨rfl, rfl⟩
      · rw [if_neg hb, if_neg hb]
        exact ends_refuseHere hat rfl

/-! ### Selectors -/

/-- A list is read further from wherever the nesting is not back at the top. -/
theorem ends_listRound {n : Nesting} (hat : At t c.position rest)
    (hopen : n.depth ≠ 0 ∨ n = .start ∧ rest.head? = some '(') :
    Ends t start c (listRound t n) (fun r d => ∃ b u, rest = b :: u ∧
        d = ⟨c.position + 1, c.depth⟩ ∧ match r with
        | .inl n' => n' = n.step b ∧ n'.depth ≠ 0
        | .inr _ => (n.step b).depth = 0)
      (fun e => rest = [] ∧ e = .endOfText t .closingParenthesis) := by
  rw [listRound, ends_peek hat]
  cases rest with
  | nil => exact ends_refuse ⟨rfl, rfl⟩
  | cons b u =>
      simp only [List.head?_cons]
      refine (ends_forward hat).bind ?_
      rintro - d rfl
      by_cases hquoting : n.quoting = .outside
      · rw [if_pos hquoting]
        by_cases hopens : b = '('
        · rw [if_pos hopens]
          refine ends_pure ⟨b, u, rfl, rfl, ?_, Nat.succ_ne_zero _⟩
          rw [Nesting.step, if_pos hquoting, if_pos hopens]
        · rw [if_neg hopens]
          have hdeep : n.depth ≠ 0 := by
            refine hopen.resolve_right ?_
            rintro ⟨-, hhead⟩
            exact hopens (Option.some.inj hhead)
          by_cases hcloses : b = ')'
          · rw [if_pos hcloses]
            refine (ends_less (Nat.pos_of_ne_zero hdeep)).bind ?_
            rintro m d ⟨hm, rfl⟩
            have hstep : n.step b = { n with depth := m } := by
              rw [Nesting.step, if_pos hquoting, if_neg hopens, if_pos hcloses, ← hm]
              rfl
            by_cases htop : m = 0
            · rw [if_pos htop]
              refine ends_pure ⟨b, u, rfl, rfl, ?_⟩
              rw [hstep]
              exact htop
            · rw [if_neg htop]
              exact ends_pure ⟨b, u, rfl, rfl, hstep.symm, htop⟩
          · rw [if_neg hcloses]
            refine ends_pure ⟨b, u, rfl, rfl, ?_, hdeep⟩
            rw [Nesting.step, if_pos hquoting, if_neg hopens, if_neg hcloses]
      · rw [if_neg hquoting]
        have hdeep : n.depth ≠ 0 := by
          refine hopen.resolve_right ?_
          rintro ⟨rfl, -⟩
          exact hquoting rfl
        refine ends_pure ⟨b, u, rfl, rfl, ?_, hdeep⟩
        rw [Nesting.step, if_neg hquoting]

theorem ends_skipList (hat : At t c.position rest) (hopen : rest.head? = some '(') :
    Ends t start c (skipList t) (fun _ d => ∃ list rest',
        Nesting.start.splitBalanced rest = some (list, rest') ∧ At t d.position rest')
      (fun e => Nesting.start.splitBalanced rest = none ∧
        e = .endOfText t .closingParenthesis) := by
  -- a part of the list is passed already, and how the rest of the text splits decides
  refine ends_loop (fun n d => ∃ run rest', At t d.position rest' ∧
    (n.depth ≠ 0 ∨ n = .start ∧ rest'.head? = some '(') ∧
    Nesting.start.splitBalanced rest =
      (n.splitBalanced rest').map fun r => (run ++ r.1, r.2)) ?_ ?_
  · exact ⟨[], rest, hat, .inr ⟨rfl, hopen⟩, Option.map_id'.symm⟩
  · rintro n d ⟨run, rest', hat', hdeep, hsplit⟩
    refine (ends_listRound hat' hdeep).mono ?_ ?_
    · rintro r d' ⟨b, u, rfl, rfl, hr⟩
      cases r with
      | inl n' =>
          obtain ⟨rfl, hdeep'⟩ := hr
          refine ⟨Nat.lt_succ_self _, run ++ [b], u, hat'.forward, .inl hdeep', ?_⟩
          rw [hsplit, Nesting.splitBalanced, if_neg hdeep', Option.map_map]
          congr 1
          funext r
          simp only [Function.comp_apply, List.append_assoc, List.singleton_append]
      | inr _ =>
          refine ⟨run ++ [b], u, ?_, hat'.forward⟩
          rw [hsplit, Nesting.splitBalanced, if_pos hr]
          rfl
    · rintro e ⟨rfl, rfl⟩
      exact ⟨hsplit, rfl⟩

/-- A list that follows a name, up to the parenthesis that closes it, makes them a selector. -/
theorem readSelector_of_splitBalanced {n : Name K} {gap body list left : Text}
    (hgap : gap.all Text.isBlank = true)
    (hsplit : Nesting.start.splitBalanced ('(' :: body) = some (list, left)) :
    ∃ s : Selector K, Alias.readSelector t (n.chars ++ (gap ++ '(' :: body)) = .ok (s, left) := by
  have henclosed : Enclosed (gap ++ list) :=
    ⟨gap, list, rfl, hgap, Nesting.balanced_of_splitBalanced hsplit⟩
  refine ⟨⟨n, gap ++ list, henclosed.opensList⟩, Alias.readSelector_eq_ok_iff.mpr ⟨?_, ?_⟩⟩
  · rw [Nesting.eq_append_of_splitBalanced hsplit]
    simp only [Selector.text, List.append_assoc]
  · exact .inl henclosed

theorem readSelector_of_unbalanced {n : Name K} {gap body : Text}
    (hname : Alias.readName t rest = .ok (n, gap ++ '(' :: body))
    (hgap : gap.all Text.isBlank = true)
    (hsplit : Nesting.start.splitBalanced ('(' :: body) = none) :
    (Alias.readSelector t rest : Except PluginError (Selector K × Text)) =
      .error (.endOfText t .closingParenthesis) := by
  have hopen : (gap ++ '(' :: body).dropWhile Text.isBlank = '(' :: body :=
    Text.dropWhile_run hgap (Text.stops_cons rfl)
  rw [Alias.readSelector, hname]
  simp only [bind, Except.bind, hopen, hsplit]
  rfl

theorem ends_cut {rest' : Text} {s : Selector K} {first : Nat} (hat : At t first rest)
    (hread : Alias.readSelector t rest = .ok (s, rest')) (hend : At t c.position rest') :
    Ends t start c (cut t first) (fun s' d => s' = s ∧ d = c) E := by
  obtain ⟨rfl, -⟩ := Alias.readSelector_eq_ok_iff.mp hread
  have hs : Selector.ofText s.text = .ok s := Selector.ofText_append s.name s.opens
  rw [cut]
  refine (ends_slice hat hend).bind ?_
  rintro _ d ⟨rfl, rfl⟩
  rw [hs]
  exact ends_pure ⟨rfl, rfl⟩

theorem ends_selector (hat : At t c.position rest) :
    Ends t start c (selector t : Scan (Selector K))
      (fun s d => ∃ rest', Alias.readSelector t rest = .ok (s, rest') ∧ At t d.position rest')
      (fun e => (Alias.readSelector t rest : Except PluginError (Selector K × Text)) =
        .error e) := by
  rw [selector, ends_position]
  refine (ends_name hat).bind_of (fun e he => ?_) ?_
  · rw [Alias.readSelector, he]
    rfl
  rintro n d ⟨after, hname, hafter⟩
  obtain ⟨rfl, hends⟩ := Alias.readName_eq_ok_iff.mp hname
  refine ends_of_within fun hd => ?_
  rw [ends_position]
  refine (ends_skipWhile hafter).bind ?_
  rintro - d' ⟨gap, body, rfl, hgap, hblank, rfl⟩
  have hbody : At t (d.position + gap.length) body := hafter.append
  rw [ends_peek hbody]
  by_cases hlist : body.head? = some '('
  · rw [if_pos hlist]
    refine (ends_skipList hbody hlist).bind_of (fun e he => ?_) ?_
    · obtain ⟨hnone, rfl⟩ := he
      obtain ⟨body, rfl⟩ := List.head?_eq_some_iff.mp hlist
      exact readSelector_of_unbalanced hname hgap hnone
    rintro - d' ⟨list, left, hsplit, hleft⟩
    obtain ⟨body, rfl⟩ := List.head?_eq_some_iff.mp hlist
    obtain ⟨s, hread⟩ := readSelector_of_splitBalanced (n := n) (t := t) hgap hsplit
    refine (ends_cut hat hread hleft).weaken ?_
    rintro _ d ⟨rfl, rfl⟩
    exact ⟨left, hread, hleft⟩
  · -- the cursor goes back to the end of the name
    rw [if_neg hlist]
    have hbare : Alias.Bare (gap ++ body) := by
      refine ⟨hends, fun u hopen => hlist ?_⟩
      rw [Text.trimStart_append hgap hblank] at hopen
      rw [hopen]
      rfl
    have hread : Alias.readSelector t (n.chars ++ (gap ++ body)) =
        .ok (Selector.bare n, gap ++ body) := by
      refine Alias.readSelector_eq_ok_iff.mpr ⟨?_, .inr ⟨rfl, hbare⟩⟩
      rw [Selector.text, Selector.bare, List.append_nil]
    refine (ends_goTo hd.start_le hafter.le_length).bind ?_
    rintro - d' rfl
    refine (ends_cut hat hread hafter).weaken ?_
    rintro _ d' ⟨rfl, rfl⟩
    exact ⟨gap ++ body, hread, hafter⟩

theorem ends_url? (hat : At t c.position rest) :
    Ends t start c (url? urls t)
      (fun u d => ∃ rest', Alias.readUrl urls rest = .ok (u, rest') ∧ At t d.position rest')
      (fun e => Alias.readUrl urls rest = .error e) := by
  rw [url?, ends_peek hat]
  cases rest with
  | nil => exact ends_pure ⟨[], rfl, hat⟩
  | cons b rest =>
      simp only [List.head?_cons, ends_position]
      refine (ends_skipWhile hat).bind ?_
      rintro - d ⟨word, rest', hrest, hword, hstops, rfl⟩
      rw [hrest] at hat
      have hread : Alias.readUrl urls (b :: rest) = (do
          let u ← Url.readListed urls word
          return (some u, rest')) := by
        rw [Alias.readUrl, hrest, Text.takeWhile_run hword hstops, Text.dropWhile_run hword hstops]
        exact List.cons_ne_nil b rest
      refine (ends_slice hat hat.append).bind ?_
      rintro _ d ⟨rfl, rfl⟩
      refine ends_ofExcept.bind_of (fun e he => ?_) ?_
      · rw [hread, he]
        rfl
      rintro u d ⟨hu, rfl⟩
      refine ends_pure ⟨rest', ?_, hat.append⟩
      rw [hread, hu]
      rfl

/-! ### The whole -/

theorem gives_entry (urls : Url.Reader) (t : Text) :
    Gives t 0 ⟨0, 0⟩ (entry urls t : Scan (Alias K)) (Alias.ofText urls t) := by
  have hat : At t 0 t := ⟨Nat.zero_le _, rfl⟩
  rw [entry, Alias.ofText]
  refine (ends_skipBlanks hat).bind fun _ d₁ hat₁ => ?_
  refine (ends_name hat₁).gives_bind ?_
  rintro n d₂ ⟨rest₂, hname, hat₂⟩
  refine ⟨_, hname, ?_⟩
  refine (ends_endPart hat₂).gives_bind ?_
  rintro _ d₃ ⟨hend, rfl⟩
  refine ⟨(), hend, ?_⟩
  refine (ends_skipBlanks hat₂).bind fun _ d₄ hat₄ => ?_
  dsimp only
  generalize Text.trimStart rest₂ = rest₄ at hat₄
  refine (ends_peek hat₄).mpr ?_
  cases rest₄ with
  | nil => exact ends_pure rfl
  | cons b rest₄ =>
      simp only [List.head?_cons, reduceCtorEq, if_false]
      refine (ends_selector hat₄).gives_bind ?_
      rintro s d₅ ⟨rest₅, hselector, hat₅⟩
      refine ⟨_, hselector, ?_⟩
      refine (ends_endPart hat₅).gives_bind ?_
      rintro _ d₆ ⟨hend, rfl⟩
      refine ⟨(), hend, ?_⟩
      refine (ends_skipBlanks hat₅).bind fun _ d₇ hat₇ => ?_
      refine (ends_url? hat₇).gives_bind ?_
      rintro u d₈ ⟨rest₈, hurl, hat₈⟩
      refine ⟨_, hurl, ?_⟩
      refine (ends_skipBlanks hat₈).bind fun _ d₉ hat₉ => ?_
      dsimp only
      generalize Text.trimStart rest₈ = rest₉ at hat₉
      refine (ends_peek hat₉).mpr ?_
      cases rest₉ with
      | nil =>
          have halias : Alias.ofSelector urls n s (u.map (·.toUrl)) = .ok (.standsFor n s u) := by
            cases u with
            | none => rfl
            | some u =>
                rw [Option.map_some, Alias.ofSelector, Url.listed_of_comma_free]
                rfl
          simp only [List.head?_nil, if_true, halias]
          exact ends_pure rfl
      | cons b rest₉ =>
          simp only [List.head?_cons, reduceCtorEq, if_false]
          exact ends_refuseHere hat₉ rfl

end PluginForms.Scan.Entry
