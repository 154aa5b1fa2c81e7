import PluginForms.Text.Basic

/-!
Lists ordered by a text key, with one element for each key. `insert` keeps the
order and replaces the element that had the key before; `ofList` therefore
makes an increasing list out of any list. `repeated` lists the keys that occur
more than once.
-/

namespace PluginForms.Sorted

variable {α : Type} (key : α → Text)

/-- The keys increase strictly, in code point order. -/
def Increasing (l : List α) : Prop :=
  l.Pairwise fun a b => key a < key b

def insert (a : α) : List α → List α
  | [] => [a]
  | b :: l =>
    if key a < key b then a :: b :: l
    else if key b < key a then b :: insert a l
    else a :: l

def ofList (l : List α) : List α := l.foldr (insert key) []

/-- The keys that two or more elements share, each once and in order. -/
def repeated (l : List α) : List Text :=
  ofList id ((l.map key).filter fun k => decide (1 < (l.map key).count k))

theorem mem_of_mem_insert {a b : α} {l : List α} (h : b ∈ insert key a l) :
    b = a ∨ b ∈ l := by
  induction l with
  | nil => simpa [insert] using h
  | cons c l ih =>
    unfold insert at h
    split at h
    · simpa using h
    · split at h
      · rcases List.mem_cons.mp h with rfl | h
        · exact .inr List.mem_cons_self
        · exact (ih h).imp_right (List.mem_cons_of_mem c)
      · rcases List.mem_cons.mp h with rfl | h
        · exact .inl rfl
        · exact .inr (List.mem_cons_of_mem c h)

theorem increasing_insert (a : α) {l : List α} (h : Increasing key l) :
    Increasing key (insert key a l) := by
  induction l with
  | nil => exact List.pairwise_singleton _ _
  | cons b l ih =>
    have hb := List.pairwise_cons.mp h
    unfold insert
    split
    · rename_i hab
      refine List.pairwise_cons.mpr ⟨fun c hc => ?_, h⟩
      rcases List.mem_cons.mp hc with rfl | hc
      · exact hab
      · exact List.lt_trans hab (hb.1 c hc)
    · rename_i hab
      split
      · rename_i hba
        refine List.pairwise_cons.mpr ⟨fun c hc => ?_, ih hb.2⟩
        rcases mem_of_mem_insert key hc with rfl | hc
        · exact hba
        · exact hb.1 c hc
      · rename_i hba
        have heq : key a = key b :=
          Decidable.byContradiction fun hne => hba (Text.lt_of_not_lt_of_ne hab hne)
        refine List.pairwise_cons.mpr ⟨fun c hc => ?_, hb.2⟩
        rw [heq]
        exact hb.1 c hc

theorem increasing_ofList (l : List α) : Increasing key (ofList key l) := by
  induction l with
  | nil => exact List.Pairwise.nil
  | cons a l ih => exact increasing_insert key a ih

theorem Increasing.filter {key : α → Text} {l : List α} (h : Increasing key l)
    (p : α → Bool) : Increasing key (l.filter p) :=
  List.Pairwise.filter p h

/-- Equal texts as one sorted list without repeats. -/
def texts (l : List Text) : List Text := ofList id l

end PluginForms.Sorted
