import PluginForms.Proofs.Text.Classes
import PluginForms.Text.Nesting

/-!
How a position gets deeper: outside of string literals only parentheses and quotes
matter, in a literal only quotes and backslashes do.
-/

namespace PluginForms.Text.Nesting

variable {d : Nat} {c : Char}

@[simp] theorem step_open : (⟨d, .outside⟩ : Nesting).step '(' = ⟨d + 1, .outside⟩ := rfl

@[simp] theorem step_close : (⟨d, .outside⟩ : Nesting).step ')' = ⟨d - 1, .outside⟩ := rfl

@[simp] theorem step_quote : (⟨d, .outside⟩ : Nesting).step '"' = ⟨d, .inside⟩ := rfl

theorem step_of_ne (hopen : c ≠ '(') (hclose : c ≠ ')') (hquote : c ≠ '"') :
    (⟨d, .outside⟩ : Nesting).step c = ⟨d, .outside⟩ := by
  simp [step, Quoting.step, hopen, hclose, hquote]

theorem step_of_isBlank (h : isBlank c = true) :
    (⟨d, .outside⟩ : Nesting).step c = ⟨d, .outside⟩ :=
  step_of_ne (ne_of_isBlank h (by decide)) (ne_of_isBlank h (by decide))
    (ne_of_isBlank h (by decide))

theorem step_of_isNamePart (h : isNamePart c = true) :
    (⟨d, .outside⟩ : Nesting).step c = ⟨d, .outside⟩ :=
  step_of_ne (ne_of_isNamePart h (by decide)) (ne_of_isNamePart h (by decide))
    (ne_of_isNamePart h (by decide))

@[simp] theorem step_quote_of_inside : (⟨d, .inside⟩ : Nesting).step '"' = ⟨d, .outside⟩ := rfl

@[simp] theorem step_backslash_of_inside :
    (⟨d, .inside⟩ : Nesting).step '\\' = ⟨d, .escaped⟩ := rfl

theorem step_of_inside (hquote : c ≠ '"') (hbackslash : c ≠ '\\') :
    (⟨d, .inside⟩ : Nesting).step c = ⟨d, .inside⟩ := by
  simp [step, Quoting.step, hquote, hbackslash]

@[simp] theorem step_of_escaped : (⟨d, .escaped⟩ : Nesting).step c = ⟨d, .inside⟩ := rfl

/-! ### Balanced texts

A balanced text is what `splitBalanced` takes: the nesting comes back to the top at its end
and not before. -/

theorem step_eq_start {n : Nesting} (hdeep : n.depth ≠ 0) (htop : (n.step c).depth = 0) :
    n.step c = start := by
  obtain ⟨d, q⟩ := n
  cases q with
  | outside =>
      by_cases hclose : c = ')'
      · subst hclose
        have hd : d - 1 = 0 := htop
        rw [step_close, hd]
        rfl
      · -- any other character keeps the depth or adds to it
        exfalso
        by_cases hopen : c = '('
        · subst hopen
          exact absurd htop (Nat.succ_ne_zero d)
        · by_cases hquote : c = '"'
          · subst hquote
            exact hdeep htop
          · rw [step_of_ne hopen hclose hquote] at htop
            exact hdeep htop
  | inside => exact absurd htop hdeep
  | escaped => exact absurd htop hdeep

theorem splitBalanced_cons {n : Nesting} {c : Char} {t list rest : Text}
    (h : n.splitBalanced (c :: t) = some (list, rest)) (hdeep : (n.step c).depth ≠ 0) :
    ∃ inner, list = c :: inner ∧ (n.step c).splitBalanced t = some (inner, rest) := by
  rw [splitBalanced, if_neg hdeep, Option.map_eq_some_iff] at h
  obtain ⟨⟨inner, after⟩, hinner, heq⟩ := h
  cases heq
  exact ⟨inner, rfl, hinner⟩

theorem eq_append_of_splitBalanced {n : Nesting} {t list rest : Text}
    (h : n.splitBalanced t = some (list, rest)) : t = list ++ rest := by
  induction t generalizing n list with
  | nil => contradiction
  | cons c t ih =>
      by_cases htop : (n.step c).depth = 0
      · rw [splitBalanced, if_pos htop] at h
        cases h
        rfl
      · obtain ⟨inner, rfl, hinner⟩ := splitBalanced_cons h htop
        rw [ih hinner]
        rfl

/-- What follows the part that is taken does not matter. -/
theorem splitBalanced_append {n : Nesting} {t list rest : Text}
    (h : n.splitBalanced t = some (list, rest)) (u : Text) :
    n.splitBalanced (list ++ u) = some (list, u) := by
  induction t generalizing n list with
  | nil => contradiction
  | cons c t ih =>
      by_cases htop : (n.step c).depth = 0
      · rw [splitBalanced, if_pos htop] at h
        cases h
        rw [List.singleton_append, splitBalanced, if_pos htop]
      · obtain ⟨inner, rfl, hinner⟩ := splitBalanced_cons h htop
        rw [List.cons_append, splitBalanced, if_neg htop, ih hinner]
        rfl

/-- A list in parentheses, up to the parenthesis that closes it. -/
def Balanced (list : Text) : Prop :=
  ∃ body, list = '(' :: body ∧ start.splitBalanced list = some (list, [])

theorem balanced_of_splitBalanced {t list rest : Text}
    (h : start.splitBalanced ('(' :: t) = some (list, rest)) : Balanced list := by
  have hself := splitBalanced_append h []
  rw [List.append_nil] at hself
  obtain ⟨inner, rfl, -⟩ := splitBalanced_cons h (Nat.succ_ne_zero 0)
  exact ⟨inner, rfl, hself⟩

end PluginForms.Text.Nesting
