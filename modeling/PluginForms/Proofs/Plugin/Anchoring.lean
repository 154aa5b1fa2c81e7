import PluginForms.Proofs.Text.Classes

/-!
Where errors about text point. A reader of a part of a text complains about that part, and the
error is moved out to the whole text, level by level; on each level it has to be found at its
place again. What a computation may fail with is followed through its parts, as they are
composed.
-/

namespace PluginForms

variable {α β : Type} {e : PluginError} {t part rest : Text} {start : Nat}

namespace PluginError

/-- An error about a character is about the one that stands at its position in the text, and an
error about the end of a text is about the end of this one. -/
def AnchoredIn (t : Text) : PluginError → Prop
  | .invalidCharacter text c position => text = t ∧ ∃ h : position < t.length, t[position] = c
  | .endOfText text _ => text = t
  | _ => True

theorem anchoredIn_character (pre : Text) (c : Char) (post : Text) :
    (invalidCharacter (pre ++ c :: post) c pre.length).AnchoredIn (pre ++ c :: post) :=
  ⟨rfl, by simp, by simp⟩

/-- An error about a part of a text is moved to where that part stands. -/
theorem AnchoredIn.within (h : e.AnchoredIn part) (before after : Text)
    (ht : t = before ++ (part ++ after)) (hstart : start = before.length) :
    (e.within t start).AnchoredIn t := by
  subst ht hstart
  cases e with
  | invalidCharacter text c position =>
      obtain ⟨-, hposition, rfl⟩ := h
      refine ⟨rfl, ?_, ?_⟩
      · simp only [List.length_append]
        omega
      · rw [List.getElem_append_right (Nat.le_add_right _ _), List.getElem_append_left (by omega)]
        simp
  | endOfText text expected => exact rfl
  | _ => exact trivial

theorem anchoredIn_atRest (h : rest <:+ t) (expected : Expected) :
    (atRest t rest expected).AnchoredIn t := by
  obtain ⟨pre, rfl⟩ := h
  cases rest with
  | nil => exact rfl
  | cons c rest =>
      have hposition : (pre ++ c :: rest).length - (c :: rest).length = pre.length := by
        rw [List.length_append, Nat.add_sub_cancel]
      rw [atRest, hposition]
      exact anchoredIn_character pre c rest

end PluginError

/-! ### Names -/

/-- A text that is no name has the wrong length, or a character that cannot stand where it
does. -/
theorem nameFault_cases (t : Text) : nameFault t = .invalidLength t ∨
    ∃ pre c post, t = pre ++ c :: post ∧ nameFault t = .invalidCharacter t c pre.length ∧
      (pre = [] ∧ isNameInitial c = false ∨ isNamePart c = false) := by
  rw [nameFault.eq_def]
  split
  · exact .inl rfl
  · cases t with
    | nil => exact .inl rfl
    | cons c cs =>
        dsimp only
        split
        · rename_i hinitial
          refine .inr ⟨[], c, cs, rfl, rfl, .inl ⟨rfl, ?_⟩⟩
          simpa using hinitial
        · split
          · exact .inl rfl
          · rename_i b rest hrest
            have hsplit : cs = cs.takeWhile isNamePart ++ b :: rest := by
              rw [← hrest]
              exact List.takeWhile_append_dropWhile.symm
            have hb : isNamePart b = false := Text.stops_dropWhile cs b rest hrest
            exact .inr ⟨c :: cs.takeWhile isNamePart, b, rest, congrArg (c :: ·) hsplit, rfl,
              .inr hb⟩

theorem anchoredIn_nameFault (t : Text) : (nameFault t).AnchoredIn t := by
  obtain hlength | ⟨pre, c, post, rfl, hcharacter, -⟩ := nameFault_cases t
  · rw [hlength]
    exact trivial
  · rw [hcharacter]
    exact PluginError.anchoredIn_character pre c post

/-! ### Computations -/

/-- The computation fails with errors only that are anchored in the text. -/
def Anchors (t : Text) (x : Except PluginError α) : Prop :=
  ∀ e, x = .error e → e.AnchoredIn t

theorem anchors_ok (a : α) : Anchors t (.ok a) := nofun

theorem anchors_error (h : e.AnchoredIn t) : Anchors t (.error e : Except PluginError α) := by
  intro e' he
  obtain rfl := Except.error.inj he
  exact h

theorem Anchors.bind {x : Except PluginError α} {f : α → Except PluginError β}
    (hx : Anchors t x) (hf : ∀ a, x = .ok a → Anchors t (f a)) : Anchors t (x >>= f) := by
  cases x with
  | ok a => exact hf a rfl
  | error e =>
      intro e' he
      obtain rfl := Except.error.inj he
      exact hx e rfl

theorem Anchors.mapM {f : α → Except PluginError β} {l : List α}
    (h : ∀ a ∈ l, Anchors t (f a)) : Anchors t (l.mapM f) := by
  induction l with
  | nil =>
      rw [List.mapM_nil]
      exact anchors_ok []
  | cons a l ih =>
      rw [List.mapM_cons]
      refine (h a List.mem_cons_self).bind fun b _ => ?_
      refine (ih fun a' ha' => h a' (List.mem_cons_of_mem a ha')).bind fun bs _ => ?_
      exact anchors_ok (b :: bs)

theorem Anchors.mapError {ε : Type} {x : Except ε α} {f : ε → PluginError}
    (h : ∀ e, x = .error e → (f e).AnchoredIn t) : Anchors t (x.mapError f) := by
  cases x with
  | ok a => exact anchors_ok a
  | error e => exact anchors_error (h e rfl)

/-- A computation on a part of a text, its errors moved to the whole. -/
theorem Anchors.within {x : Except PluginError α} (hx : Anchors part x) (before after : Text)
    (ht : t = before ++ (part ++ after)) (hstart : start = before.length) :
    Anchors t (x.mapError (·.within t start)) :=
  .mapError fun e he => (hx e he).within before after ht hstart

theorem Name.anchors_ofText {K : Kind} (t : Text) :
    Anchors t (ofText t : Except PluginError (Name K)) := by
  obtain ⟨_, hok⟩ | ⟨-, herror⟩ := ofText_cases (K := K) t
  · rw [hok]
    exact anchors_ok _
  · rw [herror]
    exact anchors_error (anchoredIn_nameFault t)

end PluginForms
