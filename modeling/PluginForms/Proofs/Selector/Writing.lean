import PluginForms.Proofs.Selector.Grammar

/-!
Which trees the grammar derives: those whose numbers are values of literals, and
which need no more lists than are allowed. Only calls with parameters need a list
of their own, so a tree may be written with more lists than it needs, but not
with fewer.
-/

namespace PluginForms

variable {K : Kind}

open Grammar

mutual

/-- How many lists have to be nested to write the tree. -/
def Expression.depth : Expression K → Nat
  | .call _ parameters => listDepth parameters
  | .number _ => 0
  | .string _ => 0

def listDepth : List (Expression K) → Nat
  | [] => 0
  | e :: es => max (e.depth + 1) (listDepth es)

end

mutual

/-- Every number of the tree is the value of a literal. -/
def Expression.Literal : Expression K → Prop
  | .call _ parameters => AllLiteral parameters
  | .number x => ∃ n : Grammar.Number, Binary64.ofLiteral n.text = x
  | .string _ => True

def AllLiteral : List (Expression K) → Prop
  | [] => True
  | e :: es => e.Literal ∧ AllLiteral es

end

/-! ### Trees are no deeper than their text -/

namespace Grammar

mutual

theorem Parameter.depth_tree_le (p : Parameter K) : p.tree.depth ≤ p.depth := by
  match p with
  | .number n => exact Nat.le_refl 0
  | .string pieces => exact Nat.le_refl 0
  | .bare n => exact Nat.le_refl 0
  | .call n gap l => exact ParameterList.listDepth_trees_le l

theorem ParameterList.listDepth_trees_le (l : ParameterList K) :
    listDepth l.trees ≤ l.depth := by
  match l with
  | .empty gap => exact Nat.zero_le 1
  | .items gap first rest =>
      have hfirst := Parameter.depth_tree_le first
      have hrest := ListRest.listDepth_trees_le rest
      simp only [ParameterList.trees, listDepth, ParameterList.depth]
      omega

theorem ListRest.listDepth_trees_le (r : ListRest K) : listDepth r.trees ≤ r.depth := by
  match r with
  | .done gap => exact Nat.zero_le 1
  | .more gap gap' next rest =>
      have hnext := Parameter.depth_tree_le next
      have hrest := ListRest.listDepth_trees_le rest
      simp only [ListRest.trees, listDepth, ListRest.depth]
      omega

end

theorem Derives.listDepth_le {limit : Nat} {t : Text} {es : List (Expression K)}
    (h : Derives limit t es) : listDepth es ≤ limit := by
  obtain ⟨d, -, rfl, hdepth⟩ := h
  cases d with
  | none gap => exact Nat.zero_le limit
  | list gap l after => exact Nat.le_trans l.listDepth_trees_le hdepth

/-! ### Every tree is written by some text -/

/-- The character as it is written in a string. -/
def Piece.ofChar (c : Char) : Piece :=
  if hquote : c = '"' then .escape .quote
  else if hbackslash : c = '\\' then .escape .backslash
  else .raw c ⟨hquote, hbackslash⟩

@[simp] theorem Piece.value_ofChar (c : Char) : (Piece.ofChar c).value = c := by
  unfold Piece.ofChar
  split
  · rename_i hquote
    exact hquote.symm
  · split
    · rename_i hbackslash
      exact hbackslash.symm
    · rfl

mutual

theorem exists_parameter (e : Expression K) (h : e.Literal) :
    ∃ p : Parameter K, p.tree = e ∧ p.depth ≤ e.depth := by
  match e with
  | .number x =>
      obtain ⟨n, rfl⟩ := h
      exact ⟨.number n, rfl, Nat.le_refl 0⟩
  | .string t =>
      refine ⟨.string (t.map Piece.ofChar), ?_, Nat.le_refl 0⟩
      simp [Parameter.tree, Function.comp_def]
  | .call n [] => exact ⟨.bare n, rfl, Nat.le_refl 0⟩
  | .call n (e :: es) =>
      obtain ⟨first, rfl, hfirst⟩ := exists_parameter e h.1
      obtain ⟨rest, rfl, hrest⟩ := exists_listRest es h.2
      refine ⟨.call n .nil (.items .nil first rest), rfl, ?_⟩
      simp only [Parameter.depth, ParameterList.depth, Expression.depth, listDepth]
      omega

theorem exists_listRest (es : List (Expression K)) (h : AllLiteral es) :
    ∃ r : ListRest K, r.trees = es ∧ r.depth ≤ max 1 (listDepth es) := by
  match es with
  | [] => exact ⟨.done .nil, rfl, Nat.le_refl 1⟩
  | e :: es =>
      obtain ⟨next, rfl, hnext⟩ := exists_parameter e h.1
      obtain ⟨rest, rfl, hrest⟩ := exists_listRest es h.2
      refine ⟨.more .nil .nil next rest, rfl, ?_⟩
      simp only [ListRest.depth, listDepth]
      omega

end

theorem exists_derives {limit : Nat} {es : List (Expression K)} (hliteral : AllLiteral es)
    (hdepth : listDepth es ≤ limit) : ∃ t, Derives limit t es := by
  cases es with
  | nil => exact ⟨[], .none .nil, rfl, rfl, Nat.zero_le limit⟩
  | cons e es =>
      obtain ⟨first, rfl, hfirst⟩ := exists_parameter e hliteral.1
      obtain ⟨rest, rfl, hrest⟩ := exists_listRest es hliteral.2
      refine ⟨_, .list .nil (.items .nil first rest) .nil, rfl, rfl, ?_⟩
      simp only [listDepth] at hdepth
      simp only [Parameters.depth, ParameterList.depth]
      omega

end Grammar

end PluginForms
