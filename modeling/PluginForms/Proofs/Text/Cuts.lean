import PluginForms.Proofs.Text.Entries

/-!
Where a text is cut. A comma is a cut if the scan of the text up to it would cut there, and
what follows a cut is scanned as if nothing stood before it. So the entries up to a cut are the
text up to it, joined, and the entries after it are those of the text after it; and an entry
begins at the start of a text or after a cut, and nowhere else.
-/

namespace PluginForms.Text

namespace EntryScan

variable {s s' : EntryScan} {c : Char} {t u pre post rest : Text} {es ts : List Text}

/-- The scan after `c`, which `rest` follows: a cut starts it again. -/
def next (s : EntryScan) (c : Char) (rest : Text) : EntryScan :=
  if c = ',' ∧ s.cuts rest = true then start else s.step c

/-- The scan after a text that `rest` follows. -/
def follow (s : EntryScan) : Text → Text → EntryScan
  | [], _ => s
  | c :: t, rest => (s.next c (t ++ rest)).follow t rest

/-- All entries of a text, the current one first. -/
def split (s : EntryScan) (t : Text) : List Text := (s.entries t).1 :: (s.entries t).2

/-- The comma after `pre`, with `post` after it, is a cut. -/
def CutsBetween (s : EntryScan) (pre post : Text) : Prop :=
  (s.follow pre (',' :: post)).cuts post = true

theorem follow_append (s : EntryScan) (t u rest : Text) :
    s.follow (t ++ u) rest = (s.follow t (u ++ rest)).follow u rest := by
  induction t generalizing s with
  | nil => rfl
  | cons c t ih => rw [List.cons_append, follow, follow, ih, List.append_assoc]

theorem next_of_not_cuts (h : ¬ (c = ',' ∧ s.cuts rest = true)) : s.next c rest = s.step c :=
  if_neg h

theorem split_of_cuts (h : s.cuts t = true) : s.split (',' :: t) = [] :: start.split t := by
  rw [split, entries, if_pos ⟨rfl, h⟩]
  rfl

theorem split_of_not_cuts (h : ¬ (c = ',' ∧ s.cuts t = true)) :
    s.split (c :: t) = (c :: ((s.step c).entries t).1) :: ((s.step c).entries t).2 := by
  rw [split, entries_cons_of_not_cuts h]

theorem split_append (h : s.Passes t s') (u : Text) :
    s.split (t ++ u) = (t ++ (s'.entries u).1) :: (s'.entries u).2 := by
  rw [split, h u]

/-! ### Entries around a cut -/

theorem intercalate_cons {t : Text} (hne : ts ≠ []) :
    [','].intercalate (t :: ts) = t ++ ',' :: [','].intercalate ts := by
  obtain ⟨u, us, rfl⟩ := List.exists_cons_of_ne_nil hne
  rw [List.intercalate_cons_cons, List.append_assoc]
  rfl

theorem intercalate_cons_append (c : Char) (t : Text) (ts : List Text) :
    [','].intercalate ((c :: t) :: ts) = c :: [','].intercalate (t :: ts) := by
  cases ts with
  | nil => rfl
  | cons u us => simp [List.intercalate_cons_cons]

/-- The entries are the text, joined. -/
theorem intercalate_split (s : EntryScan) (t : Text) : [','].intercalate (s.split t) = t := by
  induction t generalizing s with
  | nil => exact List.intercalate_singleton
  | cons c t ih =>
      by_cases hcut : c = ',' ∧ s.cuts t = true
      · obtain ⟨rfl, hcuts⟩ := hcut
        have hne : start.split t ≠ [] := List.cons_ne_nil _ _
        rw [split_of_cuts hcuts, intercalate_cons hne, ih]
        rfl
      · rw [split_of_not_cuts hcut, intercalate_cons_append]
        exact congrArg (c :: ·) (ih (s.step c))

/-- The entries up to a cut are the text up to it. -/
theorem exists_split_of_cutsBetween (h : s.CutsBetween pre post) :
    ∃ es, s.split (pre ++ ',' :: post) = es ++ start.split post ∧ es ≠ [] ∧
      [','].intercalate es = pre := by
  induction pre generalizing s with
  | nil => exact ⟨[[]], split_of_cuts h, List.cons_ne_nil _ _, rfl⟩
  | cons c pre ih =>
      rw [CutsBetween, follow] at h
      obtain ⟨es, hsplit, hne, hjoin⟩ := ih h
      rw [List.cons_append]
      by_cases hcut : c = ',' ∧ s.cuts (pre ++ ',' :: post) = true
      · rw [next, if_pos hcut] at hsplit
        obtain ⟨rfl, hcuts⟩ := hcut
        refine ⟨[] :: es, ?_, List.cons_ne_nil _ _, ?_⟩
        · rw [split_of_cuts hcuts, hsplit]
          rfl
        · rw [intercalate_cons hne, hjoin]
          rfl
      · -- the current entry gets one character longer
        rw [next_of_not_cuts hcut, split] at hsplit
        obtain ⟨e, es, rfl⟩ := List.exists_cons_of_ne_nil hne
        obtain ⟨hfirst, hlater⟩ := List.cons.inj hsplit
        refine ⟨(c :: e) :: es, ?_, List.cons_ne_nil _ _, ?_⟩
        · rw [split_of_not_cuts hcut, hfirst, hlater]
          rfl
        · rw [intercalate_cons_append, hjoin]

/-- There is a cut between any two entries. -/
theorem exists_cutsBetween_of_split (h : s.split t = es ++ ts) (hes : es ≠ []) (hts : ts ≠ []) :
    ∃ pre post, t = pre ++ ',' :: post ∧ s.CutsBetween pre post ∧
      [','].intercalate es = pre ∧ ts = start.split post := by
  obtain ⟨e, es, rfl⟩ := List.exists_cons_of_ne_nil hes
  induction t generalizing s e es with
  | nil =>
      have hnil : es ++ ts = [] := (List.cons.inj h).2.symm
      exact absurd (List.append_eq_nil_iff.mp hnil).2 hts
  | cons c t ih =>
      by_cases hcut : c = ',' ∧ s.cuts t = true
      · have hnext : s.next c t = start := if_pos hcut
        obtain ⟨rfl, hcuts⟩ := hcut
        rw [split_of_cuts hcuts] at h
        obtain ⟨rfl, hlater⟩ := List.cons.inj h
        cases es with
        | nil => exact ⟨[], t, rfl, hcuts, rfl, hlater.symm⟩
        | cons e es =>
            obtain ⟨pre, post, rfl, hbetween, hjoin, hpost⟩ := ih e es hlater (List.cons_ne_nil _ _)
            refine ⟨',' :: pre, post, rfl, ?_, ?_, hpost⟩
            · rw [CutsBetween, follow, hnext]
              exact hbetween
            · rw [intercalate_cons (List.cons_ne_nil _ _), hjoin]
              rfl
      · rw [split_of_not_cuts hcut] at h
        obtain ⟨rfl, hlater⟩ := List.cons.inj h
        have hsplit : (s.step c).split t = ((s.step c).entries t).1 :: es ++ ts :=
          congrArg _ hlater
        obtain ⟨pre, post, rfl, hbetween, hjoin, hpost⟩ := ih _ es hsplit (List.cons_ne_nil _ _)
        refine ⟨c :: pre, post, rfl, ?_, ?_, hpost⟩
        · rw [CutsBetween, follow, next_of_not_cuts hcut]
          exact hbetween
        · rw [intercalate_cons_append, hjoin]

/-- There is no cut in a text that the scan passes over. -/
theorem Passes.not_cutsBetween (h : s.Passes (pre ++ ',' :: u) s') (rest : Text) :
    ¬ s.CutsBetween pre (u ++ rest) := by
  intro hbetween
  obtain ⟨es, hsplit, hne, hjoin⟩ := exists_split_of_cutsBetween hbetween
  have hpasses := split_append h rest
  rw [List.append_assoc, List.cons_append, hsplit] at hpasses
  -- the first entry would be longer than all entries up to the cut
  obtain ⟨e, es, rfl⟩ := List.exists_cons_of_ne_nil hne
  obtain ⟨rfl, -⟩ := List.cons.inj hpasses
  have hlength := congrArg List.length hjoin
  cases es with
  | nil => simp at hlength
  | cons e es => simp [List.intercalate_cons_cons] at hlength

theorem cutsBetween_append :
    s.CutsBetween (pre ++ u) post ↔ (s.follow pre (u ++ ',' :: post)).CutsBetween u post := by
  rw [CutsBetween, CutsBetween, follow_append]

/-! ### In parentheses -/

theorem follow_of_splitBalanced {n : Nesting} {left : Text} (hdeep : n.depth ≠ 0)
    (h : n.splitBalanced t = some (u, left)) (rest : Text) :
    (⟨n, false⟩ : EntryScan).follow u rest = start := by
  induction t generalizing n u with
  | nil => contradiction
  | cons c t ih =>
      have hnext (v : Text) : (⟨n, false⟩ : EntryScan).next c v = ⟨n.step c, false⟩ := by
        refine (next_of_not_cuts fun hcut => ?_).trans (step_of_depth_ne hdeep c)
        have hcuts := hcut.2
        rw [cuts, isTop_of_depth_ne hdeep] at hcuts
        contradiction
      by_cases hzero : (n.step c).depth = 0
      · rw [Nesting.splitBalanced, if_pos hzero] at h
        cases h
        rw [follow, hnext, Nesting.step_eq_start hdeep hzero]
        rfl
      · obtain ⟨inner, rfl, hinner⟩ := Nesting.splitBalanced_cons h hzero
        rw [follow, hnext]
        exact ih hzero hinner

/-- A list in parentheses leaves the scan at the top. -/
theorem follow_of_balanced (h : Nesting.Balanced t) (rest : Text) :
    start.follow t rest = start := by
  obtain ⟨body, rfl, hsplit⟩ := h
  have hdeep : (Nesting.start.step '(').depth ≠ 0 := Nat.succ_ne_zero 0
  obtain ⟨inner, heq, hinner⟩ := Nesting.splitBalanced_cons hsplit hdeep
  obtain ⟨-, rfl⟩ := List.cons.inj heq
  exact follow_of_splitBalanced hdeep hinner rest

/-! ### Where entries begin -/

/-- An entry of `pre ++ rest` begins after `pre`. -/
def Begins (pre rest : Text) : Prop :=
  pre = [] ∨ ∃ before, pre = before ++ [','] ∧ start.CutsBetween before rest

/-- An entry at whose end the scan is at `s` ends before `rest`. -/
def Ends (s : EntryScan) (rest : Text) : Prop :=
  rest = [] ∨ ∃ post, rest = ',' :: post ∧ s.cuts post = true

theorem exists_split_of_passes (h : s.Passes t s') (hends : s'.Ends rest) :
    ∃ later, s.split (t ++ rest) = t :: later := by
  rw [split_append h]
  obtain rfl | ⟨post, rfl, hcuts⟩ := hends
  · exact ⟨[], by rw [entries, List.append_nil]⟩
  · obtain ⟨hcurrent, hlater⟩ := List.cons.inj (split_of_cuts hcuts)
    rw [hcurrent, hlater, List.append_nil]
    exact ⟨_, rfl⟩

end EntryScan

open EntryScan

theorem splitEntries_eq (t : Text) : splitEntries t = withStarts 0 (start.split t) := rfl

theorem withStarts_append (position : Nat) {es : List Text} (ts : List Text) (hne : es ≠ []) :
    withStarts position (es ++ ts) = withStarts position es ++
      withStarts (position + ([','].intercalate es).length + 1) ts := by
  induction es generalizing position with
  | nil => exact absurd rfl hne
  | cons e es ih =>
      by_cases hnil : es = []
      · rw [hnil, List.intercalate_singleton]
        rfl
      · have hlength : position + e.length + 1 + ([','].intercalate es).length + 1 =
            position + ([','].intercalate (e :: es)).length + 1 := by
          rw [intercalate_cons hnil, List.length_append, List.length_cons]
          omega
        rw [List.cons_append, withStarts, ih _ hnil, hlength]
        rfl

theorem mem_withStarts {position k : Nat} {ts : List Text} {e : Text}
    (h : (k, e) ∈ withStarts position ts) : ∃ es us, ts = es ++ e :: us ∧
      (es = [] ∧ k = position ∨ es ≠ [] ∧ k = position + ([','].intercalate es).length + 1) := by
  induction ts generalizing position with
  | nil => contradiction
  | cons t ts ih =>
      rw [withStarts, List.mem_cons] at h
      obtain heq | hmem := h
      · cases heq
        exact ⟨[], ts, rfl, .inl ⟨rfl, rfl⟩⟩
      · obtain ⟨es, us, rfl, hk⟩ := ih hmem
        refine ⟨t :: es, us, rfl, .inr ⟨List.cons_ne_nil _ _, ?_⟩⟩
        obtain ⟨rfl, rfl⟩ | ⟨hne, rfl⟩ := hk
        · rw [List.intercalate_singleton]
        · rw [intercalate_cons hne, List.length_append, List.length_cons]
          omega

/-- The entries from one on are those of the text from there on. -/
theorem exists_splitEntries_of_begins {pre rest : Text} (h : Begins pre rest) :
    ∃ es, splitEntries (pre ++ rest) = es ++ withStarts pre.length (start.split rest) := by
  obtain rfl | ⟨before, rfl, hbetween⟩ := h
  · exact ⟨[], rfl⟩
  · obtain ⟨es, hsplit, hne, hjoin⟩ := exists_split_of_cutsBetween hbetween
    refine ⟨withStarts 0 es, ?_⟩
    rw [List.append_assoc, List.singleton_append, splitEntries_eq, hsplit,
      withStarts_append _ _ hne, hjoin, Nat.zero_add, List.length_append]
    rfl

/-- A part that the scan passes over is an entry if the text is cut before it and after it. -/
theorem exists_splitEntries_of_passes {pre t rest : Text} {s : EntryScan}
    (hbegins : Begins pre (t ++ rest)) (h : start.Passes t s) (hends : s.Ends rest) :
    ∃ es₁ es₂, splitEntries (pre ++ (t ++ rest)) = es₁ ++ (pre.length, t) :: es₂ := by
  obtain ⟨es₁, hsplit⟩ := exists_splitEntries_of_begins hbegins
  obtain ⟨later, hlater⟩ := exists_split_of_passes h hends
  rw [hlater] at hsplit
  exact ⟨es₁, _, hsplit⟩

/-- The entries are those that begin somewhere. -/
theorem mem_splitEntries_iff {t e : Text} {k : Nat} : (k, e) ∈ splitEntries t ↔
    ∃ pre rest, t = pre ++ rest ∧ pre.length = k ∧ Begins pre rest ∧
      e = (start.entries rest).1 := by
  constructor
  · intro h
    obtain ⟨es, us, hsplit, ⟨rfl, rfl⟩ | ⟨hne, rfl⟩⟩ := mem_withStarts h
    · exact ⟨[], t, rfl, rfl, .inl rfl, (List.cons.inj hsplit).1.symm⟩
    · obtain ⟨before, rest, rfl, hbetween, hjoin, hlater⟩ :=
        exists_cutsBetween_of_split hsplit hne (List.cons_ne_nil _ _)
      refine ⟨before ++ [','], rest, by simp, ?_, .inr ⟨before, rfl, hbetween⟩, ?_⟩
      · rw [hjoin, List.length_append, Nat.zero_add]
        rfl
      · exact (List.cons.inj hlater).1
  · rintro ⟨pre, rest, rfl, rfl, hbegins, rfl⟩
    obtain ⟨es, hes⟩ := exists_splitEntries_of_begins hbegins
    rw [hes]
    exact List.mem_append_right es List.mem_cons_self

/-- An entry stands in the text where it is said to begin. -/
theorem exists_of_mem_splitEntries {t e : Text} {k : Nat} (h : (k, e) ∈ splitEntries t) :
    ∃ before after, t = before ++ (e ++ after) ∧ k = before.length := by
  obtain ⟨before, rest, rfl, rfl, -, rfl⟩ := mem_splitEntries_iff.mp h
  have hjoin := intercalate_split start rest
  rw [split] at hjoin
  generalize (start.entries rest).1 = e, (start.entries rest).2 = later at hjoin ⊢
  cases later with
  | nil => exact ⟨before, [], by rw [← hjoin, List.intercalate_singleton, List.append_nil], rfl⟩
  | cons u us =>
      rw [intercalate_cons (List.cons_ne_nil _ _)] at hjoin
      exact ⟨before, _, by rw [← hjoin], rfl⟩

/-- A comma in the middle one of three parts. -/
theorem exists_of_comma_within {head list rest before post : Text}
    (h : head ++ (list ++ rest) = before ++ ',' :: post) (hhead : head.length ≤ before.length)
    (hlist : before.length < head.length + list.length) :
    ∃ u v, before = head ++ u ∧ list = u ++ ',' :: v ∧ post = v ++ rest := by
  obtain ⟨u, rfl⟩ : head <+: before :=
    List.prefix_of_prefix_length_le (h ▸ List.prefix_append head _) (List.prefix_append before _)
      hhead
  rw [List.append_assoc, List.append_cancel_left_eq] at h
  rw [List.length_append, Nat.add_lt_add_iff_left] at hlist
  obtain ⟨v, rfl⟩ : u <+: list :=
    List.prefix_of_prefix_length_le (h ▸ List.prefix_append u _) (List.prefix_append list rest)
      hlist.le
  rw [List.append_assoc, List.append_cancel_left_eq] at h
  cases v with
  | nil => simp at hlist
  | cons c v =>
      obtain ⟨rfl, hpost⟩ := List.cons.inj h
      exact ⟨u, v, rfl, rfl, hpost.symm⟩

/-- No entry begins in a part that the scan passes over. -/
theorem le_or_lt_of_mem_splitEntries {head list rest e : Text} {k : Nat} {s s' : EntryScan}
    (hhead : start.follow head (list ++ rest) = s) (hlist : s.Passes list s')
    (h : (k, e) ∈ splitEntries (head ++ (list ++ rest))) :
    k ≤ head.length ∨ head.length + list.length < k := by
  obtain ⟨pre, post, htext, rfl, rfl | ⟨before, rfl, hbetween⟩, -⟩ := mem_splitEntries_iff.mp h
  · exact .inl (Nat.zero_le _)
  · rw [List.length_append, List.length_singleton]
    refine or_iff_not_imp_left.mpr fun hafter => Nat.lt_of_not_le fun hwithin => ?_
    rw [List.append_assoc] at htext
    obtain ⟨u, v, rfl, rfl, rfl⟩ := exists_of_comma_within htext (by omega) (by omega)
    rw [cutsBetween_append] at hbetween
    rw [List.append_assoc, List.cons_append] at hhead
    rw [hhead] at hbetween
    exact hlist.not_cutsBetween rest hbetween

end PluginForms.Text
