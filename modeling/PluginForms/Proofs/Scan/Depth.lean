import PluginForms.Proofs.Scan.Parameters

/-!
How many lists are open. Only `list` changes that, and it takes back what it did before it gives a
result, so every scanner leaves as many lists open as it found, in whatever state it begins.
-/

namespace PluginForms.Scan

variable {α β σ : Type} {x : Scan α} {f : α → Scan β} {s s' : Trail} {b : β}

/-- However the scanner comes to a result, as many lists are open then as before. -/
def KeepsDepth (x : Scan α) : Prop :=
  ∀ s a s', x.outcome s = (.ok a, s') → s'.cursor.depth = s.cursor.depth

/-! ### What scanners are made of -/

theorem outcome_bind_ok (h : (x >>= f).outcome s = (.ok b, s')) :
    ∃ a s₁, x.outcome s = (.ok a, s₁) ∧ (f a).outcome s₁ = (.ok b, s') := by
  rw [outcome_bind] at h
  generalize x.outcome s = ran at h
  obtain ⟨r, s₁⟩ := ran
  cases r with
  | ok a => exact ⟨a, s₁, rfl, h⟩
  | error e => cases h

@[grind ←]
theorem KeepsDepth.bind (hx : KeepsDepth x) (hf : ∀ a, KeepsDepth (f a)) :
    KeepsDepth (x >>= f) := by
  intro s b s' h
  obtain ⟨a, s₁, hfirst, hthen⟩ := outcome_bind_ok h
  exact (hf a s₁ b s' hthen).trans (hx s a s₁ hfirst)

@[grind ←]
theorem keepsDepth_pure (a : α) : KeepsDepth (pure a : Scan α) := by
  rintro s _ _ ⟨⟩
  rfl

@[grind ←]
theorem keepsDepth_throw (e : Stop) : KeepsDepth (throw e : Scan α) := by
  rintro s _ _ ⟨⟩

@[grind ←]
theorem keepsDepth_refuse (e : PluginError) : KeepsDepth (refuse e : Scan α) :=
  keepsDepth_throw (.refused e)

@[grind ←]
theorem keepsDepth_position : KeepsDepth position := by
  rintro s _ _ ⟨⟩
  rfl

@[grind ←]
theorem keepsDepth_peek (t : Text) : KeepsDepth (peek t) := by
  rintro s _ _ ⟨⟩
  rfl

@[grind ←]
theorem keepsDepth_goTo (p : Nat) : KeepsDepth (goTo p) := by
  rintro s _ _ ⟨⟩
  rfl

@[grind ←]
theorem keepsDepth_forward : KeepsDepth forward :=
  keepsDepth_position.bind fun p => keepsDepth_goTo (p + 1)

@[grind ←]
theorem keepsDepth_less (n : Nat) : KeepsDepth (less n) := by
  cases n with
  | zero => exact keepsDepth_throw .underflow
  | succ n => exact keepsDepth_pure n

@[grind ←]
theorem keepsDepth_ofExcept (r : Except PluginError α) : KeepsDepth (ofExcept r) := by
  cases r with
  | ok a => exact keepsDepth_pure a
  | error e => exact keepsDepth_refuse e

@[grind ←]
theorem keepsDepth_slice (t : Text) (first : Nat) : KeepsDepth (slice t first) := by
  grind [slice]

@[grind ←]
theorem keepsDepth_loop (t : Text) {body : σ → Scan (σ ⊕ α)} (hbody : ∀ s, KeepsDepth (body s))
    (s : σ) : KeepsDepth (loop t body s) := by
  rw [loop]
  generalize t.length + 1 = rounds
  induction rounds generalizing s with
  | zero => exact keepsDepth_throw .endless
  | succ rounds ih =>
      rw [loopFor]
      refine (hbody s).bind fun r => ?_
      cases r with
      | inl s' => exact ih s'
      | inr a => exact keepsDepth_pure a

@[grind ←]
theorem keepsDepth_skipWhile (t : Text) (p : Char → Bool) : KeepsDepth (skipWhile t p) := by
  refine keepsDepth_loop t (fun _ => ?_) ()
  grind [skipRound]

/-! ### Tokens -/

@[grind ←]
theorem keepsDepth_refuseAt (t : Text) (p : Nat) : KeepsDepth (refuseAt t p : Scan α) := by
  grind [refuseAt]

@[grind ←]
theorem keepsDepth_expect (t : Text) (wanted : Char) (expected : Text) :
    KeepsDepth (expect t wanted expected) := by
  grind [expect]

@[grind ←]
theorem keepsDepth_expectInitial (t : Text) : KeepsDepth (expectInitial t) := by
  grind [expectInitial]

@[grind ←]
theorem keepsDepth_digits (t : Text) : KeepsDepth (digits t) := by
  grind [digits]

@[grind ←]
theorem keepsDepth_sign (t : Text) : KeepsDepth (sign t) := by
  grind [sign]

@[grind ←]
theorem keepsDepth_fraction (t : Text) : KeepsDepth (fraction t) := by
  grind [fraction]

@[grind ←]
theorem keepsDepth_advance (t : Text) : KeepsDepth (advance t) := by
  grind [advance]

@[grind ←]
theorem keepsDepth_escaped (t : Text) : KeepsDepth (escaped t) := by
  grind [escaped]

@[grind ←]
theorem keepsDepth_stringRound (t chars : Text) : KeepsDepth (stringRound t chars) := by
  grind [stringRound]

variable {K : Kind}

@[grind ←]
theorem keepsDepth_number (t : Text) : KeepsDepth (number t : Scan (Expression K)) := by
  refine keepsDepth_position.bind fun start => (keepsDepth_sign t).bind fun _ => ?_
  refine (keepsDepth_digits t).bind fun _ => (keepsDepth_fraction t).bind fun _ => ?_
  grind

@[grind ←]
theorem keepsDepth_string (t : Text) : KeepsDepth (string t : Scan (Expression K)) := by
  grind [string]

@[grind ←]
theorem keepsDepth_callee (t : Text) : KeepsDepth (callee t : Scan (Name K)) := by
  grind [callee]

/-! ### Lists -/

variable {inner : Scan (List (Expression K))}

@[grind ←]
theorem keepsDepth_arguments (hinner : KeepsDepth inner) (t : Text) :
    KeepsDepth (arguments inner t) := by
  grind [arguments]

@[grind ←]
theorem keepsDepth_call (hinner : KeepsDepth inner) (t : Text) : KeepsDepth (call inner t) := by
  grind [call]

@[grind ←]
theorem keepsDepth_parameter (hinner : KeepsDepth inner) (t : Text) :
    KeepsDepth (parameter inner t) := by
  grind [parameter]

@[grind ←]
theorem keepsDepth_itemRound (hinner : KeepsDepth inner) (t : Text) (es : List (Expression K)) :
    KeepsDepth (itemRound inner t es) := by
  refine (keepsDepth_skipWhile t _).bind fun _ => (keepsDepth_parameter hinner t).bind fun e => ?_
  refine (keepsDepth_skipWhile t _).bind fun _ => (keepsDepth_peek t).bind fun c => ?_
  grind

theorem keepsDepth_items (hinner : KeepsDepth inner) (t : Text) : KeepsDepth (items inner t) := by
  grind [items]

/-- The list is counted while it is read, and only then. -/
theorem keepsDepth_list (t : Text) (levels : Nat) :
    KeepsDepth (list t levels : Scan (List (Expression K))) := by
  induction levels with
  | zero => exact keepsDepth_throw .endless
  | succ levels ih =>
      intro s es s' h
      rw [list] at h
      obtain ⟨c, s₁, hcursor, h⟩ := outcome_bind_ok h
      cases hcursor
      by_cases hlimit : s.cursor.depth = nestingLimit
      · rw [if_pos hlimit] at h
        obtain ⟨p, s₂, -, hrefuse⟩ := outcome_bind_ok h
        cases hrefuse
      · rw [if_neg hlimit] at h
        obtain ⟨_, s₂, hopen, h⟩ := outcome_bind_ok h
        cases hopen
        obtain ⟨es, s₃, hitems, h⟩ := outcome_bind_ok h
        have hread : s₃.cursor.depth = s.cursor.depth + 1 := keepsDepth_items ih t _ es s₃ hitems
        obtain ⟨c, s₄, hcursor, h⟩ := outcome_bind_ok h
        cases hcursor
        rw [hread] at h
        obtain ⟨_, s₄, hclose, h⟩ := outcome_bind_ok h
        cases hclose
        cases h
        rfl

end PluginForms.Scan
