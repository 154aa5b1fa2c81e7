import Mathlib.Data.List.Induction
import PluginForms.Proofs.Text.Nesting

/-!
Closed lists, by counting. A list is closed if as many parentheses are closed in it as are
opened, not counting those in string literals, and that is so for no part that it begins with.
A scanner does not count, it follows the nesting from one character to the next; what it takes
for a list is what is closed.

Anywhere else, too, the nesting that a scanner follows is what counting says: how many parentheses
the text leaves open when its string literals are taken out, and whether it ends in one of these.
-/

namespace PluginForms.Text

mutual

/-- The text without its string literals. -/
def unquoted : Text → Text
  | [] => []
  | '"' :: t => afterQuote t
  | c :: t => c :: unquoted t

/-- The text without its string literals, if it begins in one. A backslash takes the next
character into the literal. -/
def afterQuote : Text → Text
  | [] => []
  | '"' :: t => unquoted t
  | ['\\'] => []
  | '\\' :: _ :: t => afterQuote t
  | _ :: t => afterQuote t

end

/-- The parentheses outside of string literals balance. -/
def Balances (t : Text) : Prop := (unquoted t).count '(' = (unquoted t).count ')'

/-- A list in parentheses, which first balance at its last character. -/
structure Closed (list : Text) : Prop where
  opens : ∃ body, list = '(' :: body
  balances : Balances list
  first : ∀ t u, list = t ++ u → t ≠ [] → u ≠ [] → ¬ Balances t

/-- A comma that follows the text is in no string literal: it stays when these are taken out. -/
def EndsUnquoted (t : Text) : Prop := unquoted (t ++ [',']) = unquoted t ++ [',']

/-- How many parentheses are open at the end of a text, where one that closes nothing makes no
difference: some part that the text ends with opens so many more than it closes, and none opens
more. -/
structure LeavesOpen (t : Text) (depth : Nat) : Prop where
  most : ∀ u, u <:+ t → u.count '(' ≤ u.count ')' + depth
  attained : ∃ u, u <:+ t ∧ u.count '(' = u.count ')' + depth

namespace LeavesOpen

variable {t : Text} {c : Char} {depth : Nat}

theorem nil : LeavesOpen [] 0 where
  most u hu := by
    rw [List.suffix_nil.mp hu]
    exact Nat.le_refl 0
  attained := ⟨[], List.suffix_refl [], rfl⟩

/-- A longer text ends with nothing, or with what the shorter one ends with and one character
more. -/
theorem forall_suffix_concat {P : Text → Prop} (hnil : P []) (h : ∀ u, u <:+ t → P (u ++ [c])) :
    ∀ u, u <:+ t ++ [c] → P u := by
  intro u hu
  obtain rfl | ⟨v, rfl, hv⟩ := List.suffix_concat_iff.mp hu
  · exact hnil
  · exact h v hv

theorem suffix_concat {u : Text} (h : u <:+ t) (c : Char) : u ++ [c] <:+ t ++ [c] := by
  obtain ⟨before, rfl⟩ := h
  exact ⟨before, (List.append_assoc before u [c]).symm⟩

theorem opened (h : LeavesOpen t depth) : LeavesOpen (t ++ ['(']) (depth + 1) := by
  have hopens (u : Text) : (u ++ ['(']).count '(' = u.count '(' + 1 := by simp
  have hcloses (u : Text) : (u ++ ['(']).count ')' = u.count ')' := by simp
  constructor
  · refine forall_suffix_concat (Nat.zero_le _) fun u hu => ?_
    have hmost := h.most u hu
    rw [hopens, hcloses]
    omega
  · obtain ⟨u, hu, hattained⟩ := h.attained
    refine ⟨u ++ ['('], suffix_concat hu '(', ?_⟩
    rw [hopens, hcloses, hattained, Nat.add_assoc]

/-- If nothing is open, there is nothing to close. -/
theorem closed (h : LeavesOpen t depth) : LeavesOpen (t ++ [')']) (depth - 1) := by
  have hopens (u : Text) : (u ++ [')']).count '(' = u.count '(' := by simp
  have hcloses (u : Text) : (u ++ [')']).count ')' = u.count ')' + 1 := by simp
  constructor
  · refine forall_suffix_concat (Nat.zero_le _) fun u hu => ?_
    have hmost := h.most u hu
    rw [hopens, hcloses]
    omega
  · obtain ⟨u, hu, hattained⟩ := h.attained
    cases depth with
    | zero => exact ⟨[], List.nil_suffix, rfl⟩
    | succ depth =>
        refine ⟨u ++ [')'], suffix_concat hu ')', ?_⟩
        rw [hopens, hcloses, hattained]
        omega

theorem kept (h : LeavesOpen t depth) (hopen : c ≠ '(') (hclose : c ≠ ')') :
    LeavesOpen (t ++ [c]) depth where
  most := by
    refine forall_suffix_concat (Nat.zero_le _) fun u hu => ?_
    simpa [hopen, hclose] using h.most u hu
  attained := by
    obtain ⟨u, hu, hattained⟩ := h.attained
    exact ⟨u ++ [c], suffix_concat hu c, by simpa [hopen, hclose] using hattained⟩

end LeavesOpen

/-- The text without its string literals, if it begins in the quoting. -/
def Quoting.unquoted : Quoting → Text → Text
  | .outside, t => Text.unquoted t
  | .inside, t => Text.afterQuote t
  | .escaped, t => Text.afterQuote t.tail

theorem Quoting.unquoted_cons (q : Quoting) (c : Char) (t : Text) :
    q.unquoted (c :: t) =
      (if q = .outside ∧ c ≠ '"' then [c] else []) ++ (q.step c).unquoted t := by
  cases q with
  | outside =>
      by_cases hquote : c = '"'
      · subst hquote
        simp [unquoted, step, Text.unquoted]
      · simp [unquoted, step, Text.unquoted, hquote]
  | inside =>
      by_cases hbackslash : c = '\\'
      · subst hbackslash
        cases t <;> simp [unquoted, step, Text.afterQuote]
      · by_cases hquote : c = '"'
        · subst hquote
          simp [unquoted, step, Text.afterQuote]
        · simp [unquoted, step, Text.afterQuote, hquote, hbackslash]
  | escaped => simp [unquoted, step]

theorem Quoting.unquoted_concat (q : Quoting) (t : Text) (c : Char) :
    q.unquoted (t ++ [c]) =
      q.unquoted t ++ if t.foldl step q = .outside ∧ c ≠ '"' then [c] else [] := by
  have hnil (q : Quoting) : q.unquoted [] = [] := by
    cases q <;> rfl
  induction t generalizing q with
  | nil =>
      rw [List.nil_append, unquoted_cons, hnil, hnil, List.append_nil]
      rfl
  | cons d t ih =>
      rw [List.cons_append, unquoted_cons, ih, unquoted_cons, List.append_assoc, List.foldl_cons]

namespace Nesting

variable {n : Nesting} {c : Char} {t : Text}

/-! ### What is open -/

theorem quoting_step (n : Nesting) (c : Char) : (n.step c).quoting = n.quoting.step c := by
  obtain ⟨depth, quoting⟩ := n
  cases quoting with
  | outside =>
      by_cases hopen : c = '('
      · rw [hopen]
        rfl
      · by_cases hclose : c = ')'
        · rw [hclose]
          rfl
        · simp [step, hopen, hclose]
  | inside => rfl
  | escaped => rfl

theorem quoting_follow (n : Nesting) (t : Text) :
    (n.follow t).quoting = t.foldl Quoting.step n.quoting := by
  induction t generalizing n with
  | nil => rfl
  | cons c t ih => rw [follow_cons, ih, quoting_step, List.foldl_cons]

theorem follow_concat (n : Nesting) (t : Text) (c : Char) :
    n.follow (t ++ [c]) = (n.follow t).step c :=
  n.follow_append t [c]

theorem unquoted_concat (t : Text) (c : Char) : Text.unquoted (t ++ [c]) =
    Text.unquoted t ++ if (start.follow t).quoting = .outside ∧ c ≠ '"' then [c] else [] := by
  rw [quoting_follow]
  exact Quoting.outside.unquoted_concat t c

theorem quoting_follow_iff (t : Text) : (start.follow t).quoting = .outside ↔ EndsUnquoted t := by
  rw [EndsUnquoted, unquoted_concat]
  by_cases houtside : (start.follow t).quoting = .outside <;> simp [houtside]

theorem leavesOpen_follow (t : Text) : LeavesOpen (Text.unquoted t) (start.follow t).depth := by
  induction t using List.reverseRecOn with
  | nil => exact .nil
  | append_singleton t c ih =>
      rw [unquoted_concat, follow_concat]
      generalize start.follow t = n at ih ⊢
      obtain ⟨depth, quoting⟩ := n
      by_cases houtside : quoting = .outside
      · subst houtside
        by_cases hquote : c = '"'
        · subst hquote
          rw [if_neg fun h => h.2 rfl, List.append_nil, step_quote]
          exact ih
        · rw [if_pos ⟨rfl, hquote⟩]
          by_cases hopen : c = '('
          · subst hopen
            exact ih.opened
          · by_cases hclose : c = ')'
            · subst hclose
              exact ih.closed
            · rw [step_of_ne hopen hclose hquote]
              exact ih.kept hopen hclose
      · rw [step, if_neg houtside, if_neg fun h => houtside h.1, List.append_nil]
        exact ih

/-! ### Lists -/

/-- The parentheses that are open are closed in the text, and so are those that it opens. -/
def Balances (n : Nesting) (t : Text) : Prop :=
  n.depth + (n.quoting.unquoted t).count '(' = (n.quoting.unquoted t).count ')'

theorem balances_nil : n.Balances [] ↔ n.depth = 0 := by
  have hnil : n.quoting.unquoted [] = [] := by
    cases n.quoting <;> rfl
  rw [Balances, hnil]
  exact Iff.rfl

theorem balances_cons (hdeep : n.depth ≠ 0) : n.Balances (c :: t) ↔ (n.step c).Balances t := by
  obtain ⟨d, q⟩ := n
  rw [Balances, Balances, Quoting.unquoted_cons]
  cases q with
  | outside =>
      by_cases hopen : c = '('
      · subst hopen
        simp [step, Quoting.step]
        omega
      · by_cases hclose : c = ')'
        · subst hclose
          change d ≠ 0 at hdeep
          simp [step, Quoting.step]
          omega
        · by_cases hquote : c = '"'
          · subst hquote
            simp [step, Quoting.step]
          · simp [step, Quoting.step, hopen, hclose, hquote]
  | inside => simp [step]
  | escaped => simp [step]

/-- A scan that is inside of parentheses takes a whole text if they first balance at its
end. -/
theorem splitBalanced_eq_self_iff (hdeep : n.depth ≠ 0) :
    n.splitBalanced t = some (t, []) ↔
      n.Balances t ∧ ∀ p u, t = p ++ u → u ≠ [] → ¬ n.Balances p := by
  induction t generalizing n with
  | nil =>
      rw [balances_nil]
      exact iff_of_false nofun fun h => hdeep h.1
  | cons c t ih =>
      rw [balances_cons hdeep]
      by_cases htop : (n.step c).depth = 0
      · -- the first character closes everything, so it is the last one
        rw [splitBalanced, if_pos htop]
        constructor
        · intro h
          obtain ⟨-, rfl⟩ := Prod.mk.inj (Option.some.inj h)
          refine ⟨balances_nil.mpr htop, fun p u hsplit hne => ?_⟩
          cases p with
          | nil => exact mt balances_nil.mp hdeep
          | cons d p =>
              obtain ⟨-, hnil⟩ := List.cons.inj hsplit
              exact absurd (List.append_eq_nil_iff.mp hnil.symm).2 hne
        · rintro ⟨-, hfirst⟩
          by_cases hnil : t = []
          · rw [hnil]
          · exact absurd ((balances_cons hdeep).mpr (balances_nil.mpr htop)) (hfirst [c] t rfl hnil)
      · have hsplit : n.splitBalanced (c :: t) = some (c :: t, []) ↔
            (n.step c).splitBalanced t = some (t, []) := by
          rw [splitBalanced, if_neg htop, Option.map_eq_some_iff]
          simp
        rw [hsplit, ih htop]
        refine and_congr_right fun _ => ⟨fun hfirst p u heq hne => ?_, fun hfirst p u heq hne => ?_⟩
        · cases p with
          | nil => exact mt balances_nil.mp hdeep
          | cons d p =>
              obtain ⟨rfl, htail⟩ := List.cons.inj heq
              rw [balances_cons hdeep]
              exact hfirst p u htail hne
        · rw [← balances_cons hdeep]
          exact hfirst (c :: p) u (congrArg (c :: ·) heq) hne

/-- A scanner takes a text for a list if and only if it is closed. -/
theorem balanced_iff_closed {list : Text} : Balanced list ↔ Closed list := by
  have hdeep : (⟨1, .outside⟩ : Nesting).depth ≠ 0 := Nat.one_ne_zero
  have hbalances (t : Text) : Text.Balances ('(' :: t) ↔ (⟨1, .outside⟩ : Nesting).Balances t := by
    have houtside : Text.unquoted ('(' :: t) = '(' :: Text.unquoted t := by simp [Text.unquoted]
    rw [Text.Balances, Balances, houtside, List.count_cons_self, Nat.add_comm]
    simp [Quoting.unquoted]
  have hsplit (body : Text) : start.splitBalanced ('(' :: body) = some ('(' :: body, []) ↔
      (⟨1, .outside⟩ : Nesting).splitBalanced body = some (body, []) := by
    have hstep : start.step '(' = ⟨1, .outside⟩ := rfl
    rw [splitBalanced, hstep, if_neg hdeep, Option.map_eq_some_iff]
    simp
  constructor
  · rintro ⟨body, rfl, h⟩
    obtain ⟨hall, hfirst⟩ := (splitBalanced_eq_self_iff hdeep).mp ((hsplit body).mp h)
    refine ⟨⟨body, rfl⟩, (hbalances body).mpr hall, fun t u heq ht hu => ?_⟩
    cases t with
    | nil => exact absurd rfl ht
    | cons c t =>
        obtain ⟨rfl, htail⟩ := List.cons.inj heq
        rw [hbalances]
        exact hfirst t u htail hu
  · rintro ⟨⟨body, rfl⟩, hall, hfirst⟩
    refine ⟨body, rfl, (hsplit body).mpr ((splitBalanced_eq_self_iff hdeep).mpr ⟨?_, ?_⟩)⟩
    · exact (hbalances body).mp hall
    · intro p u heq hu
      rw [← hbalances]
      exact hfirst ('(' :: p) u (congrArg ('(' :: ·) heq) (List.cons_ne_nil _ _) hu

end Nesting

theorem closed_iff {list : Text} : Closed list ↔
    list.head? = some '(' ∧ Nesting.start.splitBalanced list = some (list, []) := by
  rw [← Nesting.balanced_iff_closed, List.head?_eq_some_iff]
  constructor
  · exact fun ⟨body, h, hsplit⟩ => ⟨⟨body, h⟩, hsplit⟩
  · exact fun ⟨⟨body, h⟩, hsplit⟩ => ⟨body, h, hsplit⟩

instance : DecidablePred Closed := fun _ => decidable_of_iff _ closed_iff.symm

end PluginForms.Text
