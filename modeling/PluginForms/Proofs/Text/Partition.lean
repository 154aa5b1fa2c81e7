import Mathlib.Data.List.Induction
import PluginForms.Proofs.Text.Closing
import PluginForms.Proofs.Text.Cuts

/-!
The entries of a text with nothing left over. Each entry begins where the entries before it and
their commas end, and the scan of an entry does not look at what was cut off before: it follows
the entry from its first character on. A comma is cut off just if that scan is outside of string
literals and parentheses there and the comma does not belong to a url. Where that is the case can
be told without a scan, by taking out the urls and then the string literals of what stands before
the comma, and counting the parentheses that are left.
-/

namespace PluginForms.Text

namespace EntryScan

variable {s : EntryScan} {c : Char} {t u e : Text} {us : List Text}

/-- The scan after a part of an entry. -/
def after (s : EntryScan) (u : Text) : EntryScan := u.foldl step s

theorem after_concat (s : EntryScan) (u : Text) (c : Char) :
    s.after (u ++ [c]) = (s.after u).step c :=
  List.foldl_concat step s c u

/-- What the scan says of the first entry: a comma that ends it is a cut, a comma within is not. -/
theorem exists_rest_of_split (h : s.split t = e :: us) : ∃ rest, t = e ++ rest ∧
    (us = [] → rest = []) ∧
    (us ≠ [] → ∃ post, rest = ',' :: post ∧ (s.after e).cuts post = true) ∧
    ∀ u v, e = u ++ ',' :: v → (s.after u).cuts (v ++ rest) = false := by
  induction t generalizing s e with
  | nil =>
      obtain ⟨rfl, rfl⟩ := List.cons.inj h
      refine ⟨[], rfl, fun _ => rfl, fun hne => absurd rfl hne, fun u v hnil => ?_⟩
      exact absurd hnil.symm (List.append_ne_nil_of_right_ne_nil u (List.cons_ne_nil _ _))
  | cons c t ih =>
      by_cases hcut : c = ',' ∧ s.cuts t = true
      · obtain ⟨rfl, hcuts⟩ := hcut
        rw [split_of_cuts hcuts] at h
        obtain ⟨rfl, rfl⟩ := List.cons.inj h
        refine ⟨',' :: t, rfl, fun hnil => ?_, fun _ => ⟨t, rfl, hcuts⟩, fun u v hnil => ?_⟩
        · exact absurd hnil (List.cons_ne_nil _ _)
        · exact absurd hnil.symm (List.append_ne_nil_of_right_ne_nil u (List.cons_ne_nil _ _))
      · rw [split_of_not_cuts hcut] at h
        obtain ⟨rfl, rfl⟩ := List.cons.inj h
        obtain ⟨rest, ht, hlast, hcuts, hwithin⟩ := ih (s := s.step c) rfl
        refine ⟨rest, by rw [List.cons_append, ← ht], hlast, hcuts, fun u v hsplit => ?_⟩
        cases u with
        | nil =>
            obtain ⟨rfl, rfl⟩ := List.cons.inj hsplit
            rw [← ht]
            exact Bool.eq_false_iff.mpr fun hs => hcut ⟨rfl, hs⟩
        | cons d u =>
            obtain ⟨rfl, htail⟩ := List.cons.inj hsplit
            exact hwithin u v htail

end EntryScan

open EntryScan

variable {t u e : Text} {c : Char}

/-! ### Where the entries begin -/

/-- The entries, each with a comma after it. -/
def terminated (es : List Text) : Text := es.flatMap (· ++ [','])

theorem terminated_eq {es : List Text} (hne : es ≠ []) :
    terminated es = [','].intercalate es ++ [','] := by
  induction es with
  | nil => exact absurd rfl hne
  | cons e es ih =>
      by_cases hnil : es = []
      · simp [hnil, terminated]
      · have hrest := ih hnil
        rw [terminated] at hrest
        rw [intercalate_cons hnil, terminated, List.flatMap_cons, hrest]
        simp

theorem length_terminated_cons (e : Text) (es : List Text) :
    (terminated (e :: es)).length = e.length + 1 + (terminated es).length := by
  rw [terminated, List.flatMap_cons, List.length_append, List.length_append]
  rfl

theorem start_of_withStarts {position k : Nat} {ts : List Text} {es us : List (Nat × Text)}
    (h : withStarts position ts = es ++ (k, e) :: us) :
    k = position + (terminated (es.map (·.2))).length := by
  induction es generalizing position ts with
  | nil =>
      cases ts with
      | nil => contradiction
      | cons t ts => exact (Prod.mk.inj (List.cons.inj h).1).1.symm
  | cons d es ih =>
      cases ts with
      | nil => contradiction
      | cons t ts =>
          obtain ⟨rfl, hrest⟩ := List.cons.inj h
          rw [ih hrest, List.map_cons, length_terminated_cons]
          simp only [Nat.add_assoc]

/-- The entries from one on are those of the text behind the entries before it. -/
theorem exists_split_of_split {es us : List Text} (h : start.split t = es ++ us) (hne : us ≠ []) :
    ∃ post, t = terminated es ++ post ∧ start.split post = us := by
  by_cases hnil : es = []
  · exact ⟨t, by rw [hnil]; rfl, by rw [h, hnil]; rfl⟩
  · obtain ⟨pre, post, rfl, -, hpre, hus⟩ := exists_cutsBetween_of_split h hnil hne
    exact ⟨post, by rw [terminated_eq hnil, hpre, List.append_assoc]; rfl, hus.symm⟩

/-! ### What the scan tracks -/

/-- How deep the scan of an entry is after a part of it. -/
def nestingAfter (u : Text) : Nesting := (start.after u).nesting

/-- The part of an entry ends in a url: there was a colon outside of string literals and
parentheses, and no white space since. -/
def EndsInUrl (u : Text) : Prop :=
  ∃ head tail, u = head ++ ':' :: tail ∧ nestingAfter head = .start ∧ tail.all (!isBlank ·) = true

/-- A comma that has the part `u` of an entry before it and `post` after it ends the entry. -/
structure Separates (u post : Text) : Prop where
  unquoted : (nestingAfter u).quoting = .outside
  unnested : (nestingAfter u).depth = 0
  ends_url : EndsInUrl u → post = [] ∨ ∃ c rest, post = c :: rest ∧ isBlank c = true

/-- What is left of a part of an entry without its urls, from behind the colon of each up to the
white space that ends it. -/
inductive WithoutUrls : Text → Text → Prop
  | nil : WithoutUrls [] []
  | keep {u v : Text} (c : Char) (h : WithoutUrls u v) (hurl : ¬ EndsInUrl u) :
      WithoutUrls (u ++ [c]) (v ++ [c])
  | leaveOut {u v : Text} (c : Char) (h : WithoutUrls u v) (hurl : EndsInUrl u) :
      WithoutUrls (u ++ [c]) v

theorem endsInUrl_concat_iff : EndsInUrl (u ++ [c]) ↔
    (EndsInUrl u ∧ isBlank c = false) ∨ (nestingAfter u = .start ∧ c = ':') := by
  constructor
  · rintro ⟨head, tail, hsplit, hhead, htail⟩
    obtain rfl | ⟨tail, d, rfl⟩ := List.eq_nil_or_concat tail
    · obtain ⟨rfl, hc⟩ := List.append_inj' hsplit rfl
      exact .inr ⟨hhead, (List.cons.inj hc).1⟩
    · rw [List.concat_eq_append, ← List.cons_append, ← List.append_assoc] at hsplit
      obtain ⟨rfl, hc⟩ := List.append_inj' hsplit rfl
      obtain rfl := (List.cons.inj hc).1
      rw [List.concat_eq_append, List.all_append, Bool.and_eq_true] at htail
      exact .inl ⟨⟨head, tail, rfl, hhead, htail.1⟩, by simpa using htail.2⟩
  · rintro (⟨⟨head, tail, rfl, hhead, htail⟩, hc⟩ | ⟨hu, rfl⟩)
    · refine ⟨head, tail ++ [c], List.append_assoc _ _ _, hhead, ?_⟩
      rw [List.all_append, htail, List.all_cons, hc]
      rfl
    · exact ⟨u, [], rfl, hu, rfl⟩

theorem inUrl_after_iff : (start.after u).inUrl = true ↔ EndsInUrl u := by
  induction u using List.reverseRecOn with
  | nil =>
      refine iff_of_false nofun ?_
      rintro ⟨head, tail, hsplit, -⟩
      exact absurd hsplit.symm (List.append_ne_nil_of_right_ne_nil head (List.cons_ne_nil _ _))
  | append_singleton u c ih =>
      rw [endsInUrl_concat_iff, after_concat, step, ← ih]
      by_cases hin : (start.after u).inUrl = true
      · rw [if_pos hin]
        simp only [hin, true_and, Bool.not_eq_true']
        refine ⟨.inl, fun h => h.elim id ?_⟩
        rintro ⟨-, rfl⟩
        decide
      · rw [if_neg hin, Bool.and_eq_true]
        simp only [hin, Bool.false_eq_true, false_and, false_or]
        exact and_comm.trans (and_congr beq_iff_eq beq_iff_eq)

/-- The scan goes on as the nesting does, but not in a url. -/
theorem nestingAfter_concat (u : Text) (c : Char) :
    (EndsInUrl u → nestingAfter (u ++ [c]) = nestingAfter u) ∧
    (¬ EndsInUrl u → nestingAfter (u ++ [c]) = (nestingAfter u).step c) := by
  rw [← inUrl_after_iff, nestingAfter, after_concat, step]
  exact ⟨fun hin => by rw [if_pos hin]; rfl, fun hin => by rw [if_neg hin]; rfl⟩

theorem exists_withoutUrls (u : Text) : ∃ v, WithoutUrls u v := by
  induction u using List.reverseRecOn with
  | nil => exact ⟨[], .nil⟩
  | append_singleton u c ih =>
      obtain ⟨v, hv⟩ := ih
      by_cases hurl : EndsInUrl u
      · exact ⟨v, hv.leaveOut c hurl⟩
      · exact ⟨v ++ [c], hv.keep c hurl⟩

/-- Urls mean nothing to the nesting. -/
theorem WithoutUrls.nestingAfter_eq {v : Text} (h : WithoutUrls u v) :
    nestingAfter u = Nesting.start.follow v := by
  induction h with
  | nil => rfl
  | keep c _ hurl ih => rw [(nestingAfter_concat _ c).2 hurl, ih, Nesting.follow_concat]
  | leaveOut c _ hurl ih => rw [(nestingAfter_concat _ c).1 hurl, ih]

theorem cuts_after_iff {post : Text} : (start.after u).cuts post = true ↔ Separates u post := by
  have hends : endsUrl post = true ↔ post = [] ∨ ∃ c rest, post = c :: rest ∧ isBlank c = true := by
    cases post <;> simp [endsUrl]
  have htop : (start.after u).isTop = true ↔
      (nestingAfter u).quoting = .outside ∧ (nestingAfter u).depth = 0 := by
    rw [isTop, beq_iff_eq, nestingAfter]
    obtain ⟨⟨depth, quoting⟩, inUrl⟩ := start.after u
    simp [Nesting.start, and_comm]
  have hurl : (!(start.after u).inUrl || endsUrl post) = true ↔
      (EndsInUrl u → post = [] ∨ ∃ c rest, post = c :: rest ∧ isBlank c = true) := by
    rw [← inUrl_after_iff, ← hends, Bool.or_eq_true, Bool.not_eq_true', ← Bool.not_eq_true]
    exact Decidable.imp_iff_not_or.symm
  rw [cuts, Bool.and_eq_true, htop, hurl]
  constructor
  · rintro ⟨⟨hquoting, hdepth⟩, hpost⟩
    exact ⟨hquoting, hdepth, hpost⟩
  · intro h
    exact ⟨⟨h.unquoted, h.unnested⟩, h.ends_url⟩

theorem drop_of_comma (u post : Text) : (u ++ ',' :: post).drop (u.length + 1) = post := by
  rw [List.append_cons, List.drop_left' (by rw [List.length_append, List.length_singleton])]

/-- The entries of a text are the whole text, cut at its separating commas. There is at least one;
joined with commas they are the text; each begins behind those before it and their commas; an
entry that is not the last ends with a comma that separates, and no comma in an entry does. What
decides about a comma is tracked from the beginning of its entry, character by character, but not
in urls. Told without going from character to character: with the urls taken out, the tracking is
outside of string literals if a comma there would stay when the literals are taken out too, and it
is as deep as the text that is left leaves parentheses open. -/
theorem entries_partition_text (t : Text) :
    splitEntries t ≠ [] ∧ [','].intercalate ((splitEntries t).map (·.2)) = t ∧
    (∀ es k e us, splitEntries t = es ++ (k, e) :: us →
      (∃ before rest, t = before ++ (e ++ rest) ∧ before = terminated (es.map (·.2)) ∧
        k = before.length) ∧
      (us ≠ [] → t[k + e.length]? = some ',' ∧ Separates e (t.drop (k + e.length + 1))) ∧
      ∀ u v, e = u ++ ',' :: v → ¬ Separates u (t.drop (k + u.length + 1))) ∧
    nestingAfter [] = .start ∧
    (∀ u c, (EndsInUrl u → nestingAfter (u ++ [c]) = nestingAfter u) ∧
      (¬ EndsInUrl u → nestingAfter (u ++ [c]) = (nestingAfter u).step c)) ∧
    (∀ u, ∃ v, WithoutUrls u v) ∧
    ∀ u v, WithoutUrls u v → ((nestingAfter u).quoting = .outside ↔ EndsUnquoted v) ∧
      LeavesOpen (unquoted v) (nestingAfter u).depth := by
  have hentries : (splitEntries t).map (·.2) = start.split t := by
    rw [splitEntries_eq, map_snd_withStarts]
  refine ⟨?nonempty, ?joined, fun es k e us h => ?entry, rfl, nestingAfter_concat,
    exists_withoutUrls, fun u v huv => ?counted⟩
  case nonempty =>
    intro hnil
    rw [hnil] at hentries
    exact absurd hentries.symm (List.cons_ne_nil _ _)
  case joined => rw [hentries, intercalate_split]
  case entry =>
    rw [h, List.map_append, List.map_cons] at hentries
    obtain ⟨post, ht, hpost⟩ := exists_split_of_split hentries.symm (List.cons_ne_nil _ _)
    obtain ⟨rest, rfl, hlast, hcuts, hwithin⟩ := exists_rest_of_split hpost
    have hk : k = (terminated (es.map (·.2))).length :=
      (start_of_withStarts h).trans (Nat.zero_add _)
    generalize terminated (es.map (·.2)) = before at ht hk ⊢
    subst hk ht
    refine ⟨⟨before, rest, rfl, rfl, rfl⟩, fun hne => ?_, fun u v he => ?_⟩
    · obtain ⟨post, rfl, hcut⟩ := hcuts fun hnil => hne (List.map_eq_nil_iff.mp hnil)
      rw [← List.append_assoc, ← List.length_append, drop_of_comma]
      exact ⟨by simp, cuts_after_iff.mp hcut⟩
    · have hcut := hwithin u v he
      rw [he, List.append_assoc, List.cons_append, ← List.append_assoc, ← List.length_append,
        drop_of_comma, ← cuts_after_iff, hcut]
      exact Bool.false_ne_true

  case counted =>
    rw [huv.nestingAfter_eq]
    exact ⟨Nesting.quoting_follow_iff v, Nesting.leavesOpen_follow v⟩

/-- The first comma stands in a url, the second one ends it, the third one is followed by neither
white space nor the end of the text. -/
example : splitEntries "a b https://x.org/p,q(r, c d urn:e,f".toList =
    [(0, "a b https://x.org/p,q(r".toList), (24, " c d urn:e,f".toList)] := by decide

end PluginForms.Text
