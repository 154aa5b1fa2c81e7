import PluginForms.Proofs.Text.Classes

/-!
Scanners that move a cursor over a text. A position is a number and a part of the text is taken
from one position to another, so nothing but the scanner itself keeps the cursor in the text, a
position from going below 0, and a part from ending before it begins. Where the scanner breaks
such a rule it stops, and it also stops in the branches that it has for what cannot be; both are
kept apart from the errors that it gives to its caller.

Loops are let go round once more than the text has characters, and a loop that is not done then
is stopped as well: a scanner that moves on in every round never gets there.

`Ends` says of one run that the scanner comes to a result or an error, without any such stop, and
never was outside of the text or before the place where it began; `Gives` says what the answer is.
There is a rule for each thing that scanners are made of; the one for loops asks of a round that it
keeps an invariant and moves on.
-/

namespace PluginForms

/-- Where a scanner is in its text, and how many lists it has open there. -/
structure Cursor where
  position : Nat
  depth : Nat
  deriving DecidableEq, Repr

/-- The branches for what cannot be, with what they would complain about. -/
inductive Fallback
  | endOfText (text expected : Text)
  | number (literal : Text) (start : Nat)
  | selector (error : PluginError)
  deriving DecidableEq

/-- Why a scanner stops. -/
inductive Stop
  | refused (error : PluginError)
  /-- One was to be taken from nothing. -/
  | underflow
  /-- There is no part of the text from the one position to the other. -/
  | noSlice (first last : Nat)
  | fallback (branch : Fallback)
  /-- A loop went round too often, or lists were entered too deep. -/
  | endless
  deriving DecidableEq

/-- Where a scanner is, and where it was before, the latest first. -/
structure Trail where
  cursor : Cursor
  past : List Cursor
  deriving DecidableEq

/-- Everywhere a scanner has been. -/
def Trail.visited (s : Trail) : List Cursor := s.cursor :: s.past

abbrev Scan (α : Type) : Type := ExceptT Stop (StateM Trail) α

namespace Scan

variable {α β σ : Type}

/-- What comes of a scanner that is let go from the end of a trail, and the trail it leaves. -/
def outcome (x : Scan α) (s : Trail) : Except Stop α × Trail := x.run.run s

/-! ### What scanners are made of -/

def cursor : Scan Cursor := do return (← get).cursor

def position : Scan Nat := do return (← cursor).position

def peek (t : Text) : Scan (Option Char) := do return t[(← position)]?

def moveTo (c : Cursor) : Scan Unit := modify fun s => ⟨c, s.visited⟩

def goTo (position : Nat) : Scan Unit := do moveTo { ← cursor with position }

def forward : Scan Unit := do goTo ((← position) + 1)

def refuse (e : PluginError) : Scan α := throw (.refused e)

def ofExcept : Except PluginError α → Scan α
  | .ok a => pure a
  | .error e => refuse e

/-- One less, if there is one. -/
def less : Nat → Scan Nat
  | 0 => throw .underflow
  | n + 1 => pure n

/-- The text from `first` on up to the cursor. -/
def slice (t : Text) (first : Nat) : Scan Text := do
  let last ← position
  if first ≤ last ∧ last ≤ t.length then return (t.take last).drop first
  else throw (.noSlice first last)

/-- Goes round until `body` has a result, but not more than `rounds` times. -/
def loopFor (body : σ → Scan (σ ⊕ α)) : (rounds : Nat) → σ → Scan α
  | 0, _ => throw .endless
  | rounds + 1, s => do
    match ← body s with
    | .inl s => loopFor body rounds s
    | .inr a => return a

def loop (t : Text) (body : σ → Scan (σ ⊕ α)) (s : σ) : Scan α := loopFor body (t.length + 1) s

/-- One character of the class, if one follows. -/
def skipRound (t : Text) (p : Char → Bool) : Scan (Unit ⊕ Unit) := do
  match ← peek t with
  | some c =>
    if p c then
      forward
      return .inl ()
    else return .inr ()
  | none => return .inr ()

def skipWhile (t : Text) (p : Char → Bool) : Scan Unit := loop t (fun _ => skipRound t p) ()

/-! ### Runs that end well -/

/-- The position is in the text, at its end perhaps, and `rest` follows there. -/
structure At (t : Text) (position : Nat) (rest : Text) : Prop where
  le_length : position ≤ t.length
  drop_eq : t.drop position = rest

/-- The cursor is in the text, not before `start`, and no more lists are open than may be. -/
structure Within (t : Text) (start : Nat) (c : Cursor) : Prop where
  start_le : start ≤ c.position
  le_length : c.position ≤ t.length
  depth_le : c.depth ≤ nestingLimit

/-- The result is one that `Q` allows where the cursor is in the end, or an error that `E` allows;
it is no other stop. -/
inductive Allowed (Q : α → Cursor → Prop) (E : PluginError → Prop) (d : Cursor) :
    Except Stop α → Prop
  | result (a : α) (h : Q a d) : Allowed Q E d (.ok a)
  | refusal (e : PluginError) (h : E e) : Allowed Q E d (.error (.refused e))

/-- From the cursor `c` on the scanner stays in the text and comes to a result that is allowed. -/
def Ends (t : Text) (start : Nat) (c : Cursor) (x : Scan α) (Q : α → Cursor → Prop)
    (E : PluginError → Prop) : Prop :=
  Within t start c → ∀ past, ∃ r d passed,
    x.outcome ⟨c, past⟩ = (r, ⟨d, passed ++ past⟩) ∧
      (∀ b ∈ d :: passed, Within t start b) ∧ Allowed Q E d r

/-- From the cursor `c` on the scanner comes to the answer, which may be an error. -/
def Gives (t : Text) (start : Nat) (c : Cursor) (x : Scan α) (answer : Except PluginError α) :
    Prop :=
  Ends t start c x (fun a _ => answer = .ok a) (fun e => answer = .error e)

variable {t rest run : Text} {start : Nat} {c d : Cursor} {x : Scan α} {f : α → Scan β}
  {Q Q' : α → Cursor → Prop} {R : β → Cursor → Prop} {E E' : PluginError → Prop}

namespace At

variable {p : Nat} {b : Char}

theorem add_length (h : At t p rest) : p + rest.length = t.length := by
  rw [← h.drop_eq, List.length_drop, Nat.add_sub_cancel' h.le_length]

theorem sub_length (h : At t p rest) : t.length - rest.length = p := by
  rw [← h.add_length, Nat.add_sub_cancel]

theorem getElem? (h : At t p rest) : t[p]? = rest.head? := by
  rw [← h.drop_eq, List.head?_drop]

theorem append (h : At t p (run ++ rest)) : At t (p + run.length) rest := by
  have hlength := h.add_length
  rw [List.length_append] at hlength
  refine ⟨by omega, ?_⟩
  rw [← List.drop_drop, h.drop_eq, List.drop_left]

/-- Two places are as far apart as what stands between them is long. -/
theorem position_eq {q : Nat} (h : At t p (run ++ rest)) (h' : At t q rest) :
    q = p + run.length := by
  have hlength := h.append.add_length
  have hlength' := h'.add_length
  omega

theorem forward (h : At t p (b :: rest)) : At t (p + 1) rest := by
  have hrun : At t p ([b] ++ rest) := h
  exact hrun.append

theorem slice (h : At t p (run ++ rest)) : (t.take (p + run.length)).drop p = run := by
  rw [List.drop_take, Nat.add_sub_cancel_left, h.drop_eq, List.take_left]

end At

/-! ### Results and composition -/

theorem Ends.mono (h : Ends t start c x Q E) (hQ : ∀ a d, Q a d → Q' a d)
    (hE : ∀ e, E e → E' e) : Ends t start c x Q' E' := by
  intro hc past
  obtain ⟨r, d, passed, hrun, hpassed, hr⟩ := h hc past
  refine ⟨r, d, passed, hrun, hpassed, ?_⟩
  cases hr with
  | result a ha => exact .result a (hQ a d ha)
  | refusal e he => exact .refusal e (hE e he)

theorem Ends.weaken (h : Ends t start c x Q E) (hQ : ∀ a d, Q a d → Q' a d) :
    Ends t start c x Q' E :=
  h.mono hQ fun _ he => he

theorem ends_of_within (h : Within t start c → Ends t start c x Q E) : Ends t start c x Q E :=
  fun hc => h hc hc

theorem ends_pure {a : α} (h : Q a c) : Ends t start c (pure a) Q E := by
  intro hc past
  refine ⟨.ok a, c, [], rfl, fun b hb => ?_, .result a h⟩
  rwa [List.mem_singleton.mp hb]

theorem ends_refuse {e : PluginError} (h : E e) : Ends t start c (refuse e : Scan α) Q E := by
  intro hc past
  refine ⟨.error (.refused e), c, [], rfl, fun b hb => ?_, .refusal e h⟩
  rwa [List.mem_singleton.mp hb]

theorem outcome_bind (x : Scan α) (f : α → Scan β) (s : Trail) : (x >>= f).outcome s =
    match x.outcome s with
    | (.ok a, s') => (f a).outcome s'
    | (.error e, s') => (.error e, s') := by
  unfold outcome
  rw [ExceptT.run_bind, StateT.run_bind]
  obtain ⟨r, s'⟩ := x.run.run s
  cases r <;> rfl

/-- What the first part passes and what the second one passes are all that is passed. -/
theorem Ends.bind (hx : Ends t start c x Q E) (hf : ∀ a d, Q a d → Ends t start d (f a) R E) :
    Ends t start c (x >>= f) R E := by
  intro hc past
  obtain ⟨r, d, passed, hrun, hpassed, hr⟩ := hx hc past
  rw [outcome_bind, hrun]
  cases hr with
  | result a ha =>
      obtain ⟨r', d', passed', hrun', hpassed', hr'⟩ :=
        hf a d ha (hpassed d List.mem_cons_self) (passed ++ past)
      refine ⟨r', d', passed' ++ passed, ?_, fun b hb => ?_, hr'⟩
      · rw [List.append_assoc]
        exact hrun'
      · rw [← List.cons_append] at hb
        rcases List.mem_append.mp hb with hb | hb
        · exact hpassed' b hb
        · exact hpassed b (List.mem_cons_of_mem d hb)
  | refusal e he => exact ⟨_, d, passed, rfl, hpassed, .refusal e he⟩

theorem Ends.bind_of (hx : Ends t start c x Q E') (hE : ∀ e, E' e → E e)
    (hf : ∀ a d, Q a d → Ends t start d (f a) R E) : Ends t start c (x >>= f) R E :=
  (hx.mono (fun _ _ h => h) hE).bind hf

/-- The answer is one that is composed in the same way. -/
theorem Ends.gives_bind {γ : Type} {r : Except PluginError γ} {g : γ → Except PluginError β}
    (hx : Ends t start c x Q (fun e => r = .error e))
    (hf : ∀ a d, Q a d → ∃ v, r = .ok v ∧ Gives t start d (f a) (g v)) :
    Gives t start c (x >>= f) (r >>= g) := by
  refine hx.bind_of (fun e he => ?_) fun a d hd => ?_
  · rw [he]
    rfl
  · obtain ⟨v, rfl, h⟩ := hf a d hd
    exact h

/-- The invariant holds before each round, and every round that is not the last moves on. -/
theorem ends_loop {body : σ → Scan (σ ⊕ α)} {s : σ} (Kept : σ → Cursor → Prop) (h : Kept s c)
    (hbody : ∀ s c, Kept s c → Ends t start c (body s) (fun r d => match r with
      | .inl s' => c.position < d.position ∧ Kept s' d
      | .inr a => Q a d) E) :
    Ends t start c (loop t body s) Q E := by
  intro hc
  -- no more rounds are needed than there are characters left, and one more
  have hrounds : ∀ rounds s c, Kept s c → t.length < rounds + c.position →
      Ends t start c (loopFor body rounds s) Q E := by
    intro rounds
    induction rounds with
    | zero =>
        intro s c _ hleft hc
        have hle := hc.le_length
        omega
    | succ rounds ih =>
        intro s c hs hleft
        rw [loopFor]
        refine (hbody s c hs).bind fun r d hr => ?_
        cases r with
        | inl s' =>
            obtain ⟨hmoved, hs'⟩ := hr
            exact ih s' d hs' (by omega)
        | inr a => exact ends_pure hr
  exact hrounds (t.length + 1) s c h (by omega) hc

/-- A scanner with an answer has no other way to stop, and the trail says where it was. -/
theorem Gives.outcome_eq {answer : Except PluginError α} (h : Gives t start c x answer)
    (hc : Within t start c) : ∃ trail, x.outcome ⟨c, []⟩ = (answer.mapError .refused, trail) ∧
      ∀ b ∈ trail.visited, Within t start b := by
  obtain ⟨r, d, passed, hrun, hpassed, hr⟩ := h hc []
  rw [List.append_nil] at hrun
  refine ⟨⟨d, passed⟩, ?_, hpassed⟩
  rw [hrun]
  cases hr with
  | result a ha =>
      rw [ha]
      rfl
  | refusal e he =>
      rw [he]
      rfl

/-! ### Looking at the text -/

theorem ends_cursor {f : Cursor → Scan β} :
    Ends t start c (cursor >>= f) R E ↔ Ends t start c (f c) R E := Iff.rfl

theorem ends_position {f : Nat → Scan β} :
    Ends t start c (position >>= f) R E ↔ Ends t start c (f c.position) R E := Iff.rfl

theorem ends_peek {f : Option Char → Scan β} (hat : At t c.position rest) :
    Ends t start c (peek t >>= f) R E ↔ Ends t start c (f rest.head?) R E := by
  rw [← hat.getElem?]
  exact Iff.rfl

theorem ends_less {n : Nat} (hn : 0 < n) :
    Ends t start c (less n) (fun m d => m + 1 = n ∧ d = c) E := by
  cases n with
  | zero => contradiction
  | succ n => exact ends_pure ⟨rfl, rfl⟩

theorem ends_ofExcept {r : Except PluginError α} :
    Ends t start c (ofExcept r) (fun a d => r = .ok a ∧ d = c) (fun e => r = .error e) := by
  cases r with
  | ok a => exact ends_pure ⟨rfl, rfl⟩
  | error e => exact ends_refuse rfl

/-- What is cut out is the run that was just passed over. -/
theorem ends_slice {first : Nat} (hat : At t first (run ++ rest)) (hend : At t c.position rest) :
    Ends t start c (slice t first) (fun u d => u = run ∧ d = c) E := by
  have hc : c.position = first + run.length := hat.position_eq hend
  have hle : first ≤ first + run.length ∧ first + run.length ≤ t.length :=
    ⟨Nat.le_add_right _ _, hat.append.le_length⟩
  rw [slice, ends_position, hc, if_pos hle, hat.slice]
  exact ends_pure ⟨rfl, rfl⟩

/-! ### Moving on -/

theorem ends_moveTo (hd : Within t start c → Within t start d) :
    Ends t start c (moveTo d) (fun _ d' => d' = d) E := by
  intro hc past
  refine ⟨.ok (), d, [c], rfl, fun b hb => ?_, .result () rfl⟩
  rcases List.mem_cons.mp hb with rfl | hb
  · exact hd hc
  · rwa [List.mem_singleton.mp hb]

theorem ends_goTo {p : Nat} (hstart : start ≤ p) (hlength : p ≤ t.length) :
    Ends t start c (goTo p) (fun _ d => d = ⟨p, c.depth⟩) E := by
  rw [goTo, ends_cursor]
  exact ends_moveTo fun hc => ⟨hstart, hlength, hc.depth_le⟩

theorem ends_forward {b : Char} (hat : At t c.position (b :: rest)) :
    Ends t start c forward (fun _ d => d = ⟨c.position + 1, c.depth⟩) E := by
  rw [forward, ends_position, goTo, ends_cursor]
  exact ends_moveTo fun hc => ⟨Nat.le_succ_of_le hc.start_le, hat.forward.le_length, hc.depth_le⟩

/-- A class of characters is passed over to its end. -/
theorem ends_skipWhile {p : Char → Bool} (hat : At t c.position rest) :
    Ends t start c (skipWhile t p) (fun _ d => ∃ run rest', rest = run ++ rest' ∧
      run.all p = true ∧ Text.Stops p rest' ∧ d = ⟨c.position + run.length, c.depth⟩) E := by
  -- a part of the run is passed already, and the rest of the text follows
  refine ends_loop (fun _ d => ∃ run rest', rest = run ++ rest' ∧ run.all p = true ∧
    d = ⟨c.position + run.length, c.depth⟩) ⟨[], rest, rfl, rfl, rfl⟩ ?_
  rintro - - ⟨run, rest', rfl, hrun, rfl⟩
  have hat' : At t (c.position + run.length) rest' := hat.append
  rw [skipRound, ends_peek hat']
  cases rest' with
  | nil => exact ends_pure ⟨run, [], rfl, hrun, Text.stops_nil, rfl⟩
  | cons b rest' =>
      simp only [List.head?_cons]
      by_cases hb : p b = true
      · rw [if_pos hb]
        refine (ends_forward hat').bind ?_
        rintro - d rfl
        refine ends_pure ⟨Nat.lt_succ_self _, run ++ [b], rest', List.append_cons _ _ _, ?_, ?_⟩
        · rw [List.all_append, hrun, List.all_cons, hb]
          rfl
        · rw [List.length_append]
          rfl
      · rw [if_neg hb]
        have hstops : Text.Stops p (b :: rest') := Text.stops_cons (Bool.eq_false_iff.mpr hb)
        exact ends_pure ⟨run, b :: rest', rfl, hrun, hstops, rfl⟩

end Scan

end PluginForms
