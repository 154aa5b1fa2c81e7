import PluginForms.Catalog.Basic
import PluginForms.Proofs.Plugin.Success
import PluginForms.Proofs.Text.Nesting
import PluginForms.Proofs.Text.Words

/-!
Lists that were joined with commas are cut into their parts again. A part is whole if the
scan passes over it without a cut and is at the top at its end, or in a url; then the comma
after it is the next cut, since a space follows that comma.
-/

namespace PluginForms.Text

/-- The characters that open, close or cut something. -/
def special : Text := ",():\"".toList

/-- The character means nothing to the scan at the top. -/
def isPlain (c : Char) : Bool := !special.contains c

/-- A class without special characters is one of plain characters. -/
theorem isPlain_of_class {p : Char → Bool} (hp : special.all (!p ·) = true) {c : Char}
    (h : p c = true) : isPlain c = true := by
  rw [isPlain, Bool.not_eq_true', ← Bool.not_eq_true, List.contains_iff_mem]
  intro hmem
  have hc := List.all_eq_true.mp hp c hmem
  rw [h] at hc
  contradiction

theorem ne_of_isPlain {c d : Char} (h : isPlain c = true) (hd : isPlain d = false) : c ≠ d := by
  rintro rfl
  rw [h] at hd
  contradiction

theorem commaJoin_cons_cons (t u : Text) (ts : List Text) :
    commaJoin (t :: u :: ts) = t ++ ',' :: ' ' :: commaJoin (u :: ts) := by
  simp [commaJoin, List.intercalate_cons_cons]

/-- Parts without commas are found again between the commas, but for the spaces. -/
theorem splitOn_commaJoin {t : Text} {ts : List Text} (h : ∀ u ∈ t :: ts, ',' ∉ u) :
    (commaJoin (t :: ts)).splitOn ',' = t :: ts.map (' ' :: ·) := by
  have hjoin (t : Text) (ts : List Text) :
      commaJoin (t :: ts) = [','].intercalate (t :: ts.map (' ' :: ·)) := by
    induction ts generalizing t with
    | nil => rfl
    | cons u ts ih =>
        rw [commaJoin_cons_cons, ih u, List.map_cons, List.intercalate_cons_cons]
        cases ts with
        | nil => simp
        | cons v ts => simp [List.intercalate_cons_cons]
  rw [hjoin]
  refine List.splitOn_intercalate ',' (fun u hu => ?_) (List.cons_ne_nil _ _)
  rcases List.mem_cons.mp hu with rfl | hu
  · exact h u List.mem_cons_self
  · obtain ⟨v, hv, rfl⟩ := List.mem_map.mp hu
    rw [List.mem_cons]
    rintro (hspace | hmem)
    · contradiction
    · exact h v (List.mem_cons_of_mem t hv) hmem

theorem commaJoin_inj {ts us : List Text} (hts : ∀ t ∈ ts, ',' ∉ t) (hus : ∀ u ∈ us, ',' ∉ u)
    (htsne : ts ≠ []) (husne : us ≠ []) (h : commaJoin ts = commaJoin us) : ts = us := by
  obtain ⟨t, ts, rfl⟩ := List.exists_cons_of_ne_nil htsne
  obtain ⟨u, us, rfl⟩ := List.exists_cons_of_ne_nil husne
  have hsplit := congrArg (List.splitOn ',') h
  rw [splitOn_commaJoin hts, splitOn_commaJoin hus] at hsplit
  obtain ⟨rfl, hrest⟩ := List.cons.inj hsplit
  rw [List.map_injective_iff.mpr (List.cons_injective) hrest]

namespace EntryScan

variable {s s' s'' : EntryScan} {c : Char} {t u : Text}

/-- Scanning the text from `s` cuts nothing and leads to `s'`. -/
def Passes (s : EntryScan) (t : Text) (s' : EntryScan) : Prop :=
  ∀ u, s.entries (t ++ u) = (t ++ (s'.entries u).1, (s'.entries u).2)

theorem passes_nil : s.Passes [] s := fun _ => rfl

theorem Passes.append (ht : s.Passes t s') (hu : s'.Passes u s'') : s.Passes (t ++ u) s'' := by
  intro v
  rw [List.append_assoc, ht (u ++ v), hu v, List.append_assoc]

theorem entries_cons_of_not_cuts (h : ¬ (c = ',' ∧ s.cuts t = true)) :
    s.entries (c :: t) = (c :: ((s.step c).entries t).1, ((s.step c).entries t).2) := by
  rw [entries, if_neg h]

theorem passes_cons_of_not_cuts (hc : ∀ u, ¬ (c = ',' ∧ s.cuts (t ++ u) = true))
    (ht : (s.step c).Passes t s') : s.Passes (c :: t) s' := by
  intro u
  rw [List.cons_append, entries_cons_of_not_cuts (hc u), ht u]
  rfl

theorem passes_cons (hc : c ≠ ',' ∨ s.isTop = false) (ht : (s.step c).Passes t s') :
    s.Passes (c :: t) s' := by
  refine passes_cons_of_not_cuts (fun u => ?_) ht
  rintro ⟨hcomma, hcuts⟩
  rcases hc with hc | htop
  · exact hc hcomma
  · rw [cuts, htop] at hcuts
    contradiction

/-! ### At the top -/

theorem step_of_isPlain (hc : isPlain c = true) : start.step c = start := by
  have hcolon : (c == ':') = false := beq_eq_false_iff_ne.mpr (ne_of_isPlain hc (by decide))
  have hnesting : Nesting.start.step c = Nesting.start :=
    Nesting.step_of_ne (ne_of_isPlain hc (by decide)) (ne_of_isPlain hc (by decide))
      (ne_of_isPlain hc (by decide))
  have hstep : start.step c = ⟨Nesting.start.step c, c == ':' && start.isTop⟩ := rfl
  rw [hstep, hnesting, hcolon]
  rfl

theorem passes_of_isPlain (ht : t.all isPlain = true) : start.Passes t start := by
  induction t with
  | nil => exact passes_nil
  | cons c t ih =>
      rw [List.all_cons, Bool.and_eq_true] at ht
      refine passes_cons (.inl (ne_of_isPlain ht.1 (by decide))) ?_
      rw [step_of_isPlain ht.1]
      exact ih ht.2

theorem passes_of_class {p : Char → Bool} (hp : special.all (!p ·) = true)
    (ht : t.all p = true) : start.Passes t start := by
  refine passes_of_isPlain (List.all_eq_true.mpr fun c hc => ?_)
  exact isPlain_of_class hp (List.all_eq_true.mp ht c hc)

theorem passes_blanks (ht : t.all isBlank = true) : start.Passes t start :=
  passes_of_class (p := isBlank) (by decide) ht

theorem passes_name {K : Kind} (n : Name K) : start.Passes n.chars start :=
  passes_of_class (p := isNamePart) (by decide) n.all_isNamePart

/-! ### In parentheses -/

theorem isTop_of_depth_ne {n : Nesting} (hdeep : n.depth ≠ 0) :
    (⟨n, false⟩ : EntryScan).isTop = false := by
  refine beq_eq_false_iff_ne.mpr fun hn => hdeep ?_
  rw [show n = Nesting.start from hn]
  rfl

theorem step_of_depth_ne {n : Nesting} (hdeep : n.depth ≠ 0) (c : Char) :
    (⟨n, false⟩ : EntryScan).step c = ⟨n.step c, false⟩ := by
  simp [step, isTop_of_depth_ne hdeep]

theorem passes_of_splitBalanced {n : Nesting} {rest : Text} (hdeep : n.depth ≠ 0)
    (h : n.splitBalanced t = some (u, rest)) : (⟨n, false⟩ : EntryScan).Passes u start := by
  induction t generalizing n u with
  | nil => contradiction
  | cons c t ih =>
      by_cases hzero : (n.step c).depth = 0
      · rw [Nesting.splitBalanced, if_pos hzero] at h
        cases h
        refine passes_cons (.inr (isTop_of_depth_ne hdeep)) ?_
        rw [step_of_depth_ne hdeep, Nesting.step_eq_start hdeep hzero]
        exact passes_nil
      · obtain ⟨inner, rfl, hinner⟩ := Nesting.splitBalanced_cons h hzero
        refine passes_cons (.inr (isTop_of_depth_ne hdeep)) ?_
        rw [step_of_depth_ne hdeep]
        exact ih hzero hinner

theorem passes_of_balanced (h : Nesting.Balanced t) : start.Passes t start := by
  obtain ⟨body, rfl, hsplit⟩ := h
  have hdeep : (Nesting.start.step '(').depth ≠ 0 := Nat.succ_ne_zero 0
  obtain ⟨inner, heq, hinner⟩ := Nesting.splitBalanced_cons hsplit hdeep
  rw [heq]
  refine passes_cons (.inl (by decide)) ?_
  exact passes_of_splitBalanced hdeep hinner

/-! ### In a url -/

/-- The scan after the colon of a url. -/
def url : EntryScan := ⟨.start, true⟩

/-- A comma in a url cuts nothing unless it is the last character. -/
theorem passes_url (hblank : t.all (!isBlank ·) = true) (hlast : t.getLast? ≠ some ',') :
    url.Passes t url := by
  induction t with
  | nil => exact passes_nil
  | cons c t ih =>
      rw [List.all_cons, Bool.and_eq_true] at hblank
      have hstep : url.step c = url := by
        have hc : (!isBlank c) = true := hblank.1
        simp [step, url, hc]
      refine passes_cons_of_not_cuts (fun u => ?_) ?_
      · rintro ⟨rfl, hcuts⟩
        cases t with
        | nil => exact hlast rfl
        | cons d t =>
            rw [List.all_cons, Bool.and_eq_true] at hblank
            have hd : isBlank d = false := by simpa using hblank.2.1
            have hends : endsUrl (d :: t ++ u) = false := hd
            rw [cuts, hends] at hcuts
            contradiction
      · rw [hstep]
        refine ih hblank.2 fun ht => hlast ?_
        rw [List.getLast?_cons, ht]
        rfl

/-- White space ends a url. -/
theorem passes_gap (ht : IsGap t) : url.Passes t start := by
  cases t with
  | nil => exact absurd rfl ht.ne_nil
  | cons c t =>
      have hblank := ht.blank
      rw [List.all_cons, Bool.and_eq_true] at hblank
      have hstep : url.step c = start := by simp [step, url, start, hblank.1]
      refine passes_cons (.inl (ne_of_isBlank hblank.1 (by decide))) ?_
      rw [hstep]
      exact passes_blanks hblank.2

/-! ### Whole entries -/

/-- The text is an entry of its own wherever a comma and a space follow it. -/
def Whole (t : Text) : Prop := ∃ s, start.Passes t s ∧ s.isTop = true

theorem whole_of_blank (ht : t.all isBlank = true) : Whole t := ⟨start, passes_blanks ht, rfl⟩

theorem Whole.append_left (ht : start.Passes t start) (hu : Whole u) : Whole (t ++ u) := by
  obtain ⟨s, hpasses, htop⟩ := hu
  exact ⟨s, ht.append hpasses, htop⟩

/-- A url may be the end of an entry, or white space after it. -/
theorem whole_of_url (ht : start.Passes t url) (hu : u.all isBlank = true) : Whole (t ++ u) := by
  by_cases hnil : u = []
  · rw [hnil, List.append_nil]
    exact ⟨url, ht, rfl⟩
  · exact ⟨start, ht.append (passes_gap ⟨hnil, hu⟩), rfl⟩

theorem entries_of_whole (h : Whole t) : start.entries t = (t, []) := by
  obtain ⟨s, hpasses, -⟩ := h
  have hend := hpasses []
  rw [List.append_nil] at hend
  rw [hend, entries, List.append_nil]

theorem entries_append_comma (h : Whole t) (u : Text) :
    start.entries (t ++ ',' :: ' ' :: u) =
      (t, (' ' :: (start.entries u).1) :: (start.entries u).2) := by
  obtain ⟨s, hpasses, htop⟩ := h
  have hcuts : s.cuts (' ' :: u) = true := by
    rw [cuts, htop, show endsUrl (' ' :: u) = true from rfl, Bool.or_true]
    rfl
  have hspace : start.entries (' ' :: u) = (' ' :: (start.entries u).1, (start.entries u).2) := by
    have hspace : ¬ (' ' = ',' ∧ start.cuts u = true) := fun h => absurd h.1 (by decide)
    rw [entries_cons_of_not_cuts hspace, step_of_isPlain (by decide)]
  rw [hpasses, entries, if_pos ⟨rfl, hcuts⟩, hspace, List.append_nil]

/-- Joining whole entries is undone by the scan, but for the spaces between them. -/
theorem entries_commaJoin {ts : List Text} (ht : Whole t) (hts : ∀ u ∈ ts, Whole u) :
    start.entries (commaJoin (t :: ts)) = (t, ts.map (' ' :: ·)) := by
  induction ts generalizing t with
  | nil =>
      rw [commaJoin, List.intercalate_singleton]
      exact entries_of_whole ht
  | cons u ts ih =>
      have hrest := ih (hts u List.mem_cons_self) fun v hv => hts v (List.mem_cons_of_mem u hv)
      rw [commaJoin_cons_cons, entries_append_comma ht, hrest]
      rfl

end EntryScan

theorem allBlank_commaJoin {t : Text} (ht : allBlank t = false) (ts : List Text) :
    allBlank (commaJoin (t :: ts)) = false := by
  obtain ⟨u, hu⟩ : ∃ u, commaJoin (t :: ts) = t ++ u := by
    cases ts with
    | nil => exact ⟨[], by rw [commaJoin, List.intercalate_singleton, List.append_nil]⟩
    | cons v ts =>
        exact ⟨_, by rw [commaJoin, List.intercalate_cons_cons, List.append_assoc]⟩
  rw [allBlank] at ht
  rw [hu, allBlank, List.all_append, ht]
  rfl

theorem map_snd_withStarts (position : Nat) (ts : List Text) :
    (withStarts position ts).map (·.2) = ts := by
  induction ts generalizing position with
  | nil => rfl
  | cons t ts ih => rw [withStarts, List.map_cons, ih]

theorem map_snd_splitEntries {t : Text} {ts : List Text} (ht : EntryScan.Whole t)
    (hts : ∀ u ∈ ts, EntryScan.Whole u) :
    (splitEntries (commaJoin (t :: ts))).map (·.2) = t :: ts.map (' ' :: ·) := by
  have hsplit : splitEntries (commaJoin (t :: ts)) = withStarts 0 (t :: ts.map (' ' :: ·)) := by
    rw [splitEntries, EntryScan.entries_commaJoin ht hts]
  rw [hsplit, map_snd_withStarts]

end PluginForms.Text

namespace PluginForms.Catalog

variable {α : Type} {read : Text → Except PluginError α}

theorem readEntries_eq_ok_iff {t : Text} {as : List α} :
    readEntries read t = .ok as ↔
      List.Forall₂ (fun entry a => read entry = .ok a) ((Text.splitEntries t).map (·.2)) as := by
  rw [readEntries, ok_mapM_iff, List.forall₂_map_left_iff]
  simp only [ok_mapError_iff]

/-- A list is read as the elements that its entries are read as, alone and after a space. -/
theorem readEntries_commaJoin {ts : List Text} {as : List α} (hne : ts ≠ [])
    (hwhole : ∀ t ∈ ts, Text.EntryScan.Whole t)
    (hread : List.Forall₂ (fun t a => read t = .ok a ∧ read (' ' :: t) = .ok a) ts as) :
    readEntries read (Text.commaJoin ts) = .ok as := by
  cases hread with
  | nil => exact absurd rfl hne
  | @cons t a ts as ha has =>
      have hlater : ∀ u ∈ ts, Text.EntryScan.Whole u :=
        fun u hu => hwhole u (List.mem_cons_of_mem t hu)
      rw [readEntries_eq_ok_iff, Text.map_snd_splitEntries (hwhole t List.mem_cons_self) hlater]
      refine .cons ha.1 (List.forall₂_map_left_iff.mpr ?_)
      exact has.imp fun u b hb => hb.2

end PluginForms.Catalog
