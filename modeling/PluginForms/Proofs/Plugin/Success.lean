import Mathlib.Data.List.Forall2
import PluginForms.Plugin.Traced

/-!
Computations that succeeded, read backwards. A composition succeeds in exactly one
way, its first part before its second; a list of computations succeeds when each of
them does, and its results stand in the order of the list.

An answer with steps is `⟨steps, .ok a⟩` when it succeeds. The lemmas speak of the
whole of it, so what they say of the result they say of the steps as well.
-/

namespace PluginForms

variable {ε α β : Type}

theorem ok_bind_iff {x : Except ε α} {f : α → Except ε β} {b : β} :
    x >>= f = .ok b ↔ ∃ a, x = .ok a ∧ f a = .ok b := by
  cases x with
  | ok a =>
      have hbind : (Except.ok a >>= f) = f a := rfl
      simp [hbind]
  | error e =>
      have hbind : (Except.error e >>= f) = .error e := rfl
      simp [hbind]

theorem ok_pure_iff {a b : α} : (pure a : Except ε α) = .ok b ↔ a = b :=
  ⟨Except.ok.inj, congrArg Except.ok⟩

theorem ok_mapM_iff {f : α → Except ε β} {l : List α} {bs : List β} :
    l.mapM f = .ok bs ↔ List.Forall₂ (fun a b => f a = .ok b) l bs := by
  induction l generalizing bs with
  | nil =>
      rw [List.mapM_nil, ok_pure_iff, List.forall₂_nil_left_iff]
      exact eq_comm
  | cons a l ih =>
      rw [List.mapM_cons, List.forall₂_cons_left_iff, ok_bind_iff]
      constructor
      · rintro ⟨b, hb, hrest⟩
        obtain ⟨rest, hl, hbs⟩ := ok_bind_iff.mp hrest
        exact ⟨b, rest, hb, ih.mp hl, (ok_pure_iff.mp hbs).symm⟩
      · rintro ⟨b, rest, hb, hl, rfl⟩
        exact ⟨b, hb, ok_bind_iff.mpr ⟨rest, ih.mpr hl, rfl⟩⟩

/-- A list of computations fails with the error of the first one that fails. -/
theorem error_mapM {f : α → Except ε β} {before : List α} {a : α} {e : ε}
    (hbefore : ∀ b ∈ before, ∃ c, f b = .ok c) (ha : f a = .error e) (after : List α) :
    (before ++ a :: after).mapM f = .error e := by
  induction before with
  | nil =>
      rw [List.nil_append, List.mapM_cons, ha]
      rfl
  | cons b before ih =>
      obtain ⟨c, hc⟩ := hbefore b List.mem_cons_self
      have hrest := ih fun b hb => hbefore b (List.mem_cons_of_mem _ hb)
      rw [List.cons_append, List.mapM_cons, hc, hrest]
      rfl

/-- Something that the computations keep of each element is kept of the whole list. -/
theorem map_eq_of_mapM {γ : Type} {f : α → Except ε β} {g : α → γ} {k : β → γ} {l : List α}
    {bs : List β} (h : l.mapM f = .ok bs) (hkeep : ∀ a b, f a = .ok b → k b = g a) :
    bs.map k = l.map g := by
  have hall := ok_mapM_iff.mp h
  clear h
  induction hall with
  | nil => rfl
  | cons hab _ ih => rw [List.map_cons, List.map_cons, hkeep _ _ hab, ih]

theorem exists_of_mem_mapM {f : α → Except ε β} {l : List α} {bs : List β}
    (h : l.mapM f = .ok bs) {b : β} (hb : b ∈ bs) : ∃ a ∈ l, f a = .ok b := by
  have hall := ok_mapM_iff.mp h
  clear h
  induction hall with
  | nil => contradiction
  | @cons a b' l bs hab _ ih =>
      rcases List.mem_cons.mp hb with rfl | hb'
      · exact ⟨a, List.mem_cons_self, hab⟩
      · obtain ⟨a', ha', hab'⟩ := ih hb'
        exact ⟨a', List.mem_cons_of_mem a ha', hab'⟩

/-- Each element is related to the one that stands at its place in the other list. -/
theorem exists_mem_zip {R : α → β → Prop} {as : List α} {bs : List β} (h : List.Forall₂ R as bs)
    {a : α} (ha : a ∈ as) : ∃ b, (a, b) ∈ as.zip bs ∧ R a b := by
  induction h with
  | nil => contradiction
  | @cons a' b as bs hab _ ih =>
      rcases List.mem_cons.mp ha with rfl | ha
      · exact ⟨b, List.mem_cons_self, hab⟩
      · obtain ⟨b', hb', hab'⟩ := ih ha
        exact ⟨b', List.mem_cons_of_mem _ hb', hab'⟩

theorem ok_mapError_iff {ε' : Type} {x : Except ε α} {f : ε → ε'} {a : α} :
    x.mapError f = .ok a ↔ x = .ok a := by
  cases x with
  | ok b =>
      have hmap : (Except.ok b : Except ε α).mapError f = .ok b := rfl
      rw [hmap, Except.ok.injEq, Except.ok.injEq]
  | error e =>
      have hmap : (Except.error e : Except ε α).mapError f = .error (f e) := rfl
      rw [hmap]
      refine iff_of_false (fun h => ?_) fun h => ?_
      · contradiction
      · contradiction

/-- What is done to the result of the last part is done to the result of the whole. -/
theorem bind_eq_map_bind {γ : Type} {x : Except ε α} {f : α → Except ε β} {f' : α → Except ε γ}
    {g : β → γ} (h : ∀ a, f' a = (f a).map g) : x >>= f' = (x >>= f).map g := by
  cases x with
  | ok a => exact h a
  | error e => rfl

namespace Traced

theorem ok_pure_iff {steps : List ε} {a b : α} :
    (pure a : Traced ε α) = ⟨steps, .ok b⟩ ↔ steps = [] ∧ a = b := by
  constructor
  · intro h
    cases h
    exact ⟨rfl, rfl⟩
  · rintro ⟨rfl, rfl⟩
    rfl

theorem ok_bind_iff {x : Traced ε α} {f : α → Traced ε β} {steps : List ε} {b : β} :
    x >>= f = ⟨steps, .ok b⟩ ↔
      ∃ before a after, x = ⟨before, .ok a⟩ ∧ f a = ⟨after, .ok b⟩ ∧
        steps = before ++ after := by
  obtain ⟨before, result⟩ := x
  cases result with
  | error e =>
      have hbind : (Traced.mk before (.error e) >>= f) = ⟨before, .error e⟩ := rfl
      simp [hbind]
  | ok a =>
      have hbind : (Traced.mk before (.ok a) >>= f) =
          ⟨before ++ (f a).steps, (f a).result⟩ := rfl
      rw [hbind]
      constructor
      · intro h
        obtain ⟨hsteps, hresult⟩ := Traced.mk.inj h
        exact ⟨before, a, (f a).steps, rfl, by rw [← hresult], hsteps.symm⟩
      · rintro ⟨before', a', after, hx, hf, rfl⟩
        cases hx
        rw [hf]

theorem ofExcept_ok_bind {a : α} {f : α → Traced ε β} : ofExcept (.ok a) >>= f = f a := rfl

theorem ofExcept_error_bind {e : PluginError} {f : α → Traced ε β} :
    ofExcept (.error e) >>= f = fail e := rfl

/-- What takes no step adds none. -/
theorem ok_ofExcept_bind_iff {r : Except PluginError α} {f : α → Traced ε β} {steps : List ε}
    {b : β} :
    ofExcept r >>= f = ⟨steps, .ok b⟩ ↔ ∃ a, r = .ok a ∧ f a = ⟨steps, .ok b⟩ := by
  rw [ok_bind_iff]
  constructor
  · rintro ⟨before, a, after, hr, hf, rfl⟩
    obtain ⟨rfl, hok⟩ := Traced.mk.inj hr
    exact ⟨a, hok, hf⟩
  · rintro ⟨a, rfl, hf⟩
    exact ⟨[], a, steps, rfl, hf, rfl⟩

theorem fail_ne_ok {e : PluginError} {steps : List ε} {a : α} :
    (fail e : Traced ε α) ≠ ⟨steps, .ok a⟩ := by
  intro h
  have hresult := congrArg Traced.result h
  contradiction

end Traced

end PluginForms
