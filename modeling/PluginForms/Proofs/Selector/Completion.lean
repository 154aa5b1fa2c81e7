import PluginForms.Proofs.Selector.Reading

/-!
Whatever was read so far can be completed, as long as no name in it is too long: the
token that was begun is finished in the shortest way, and then every open list is
closed. A state demands the rest of a derivation, so this is to find one rest.
-/

namespace PluginForms.ReadState

open Grammar

variable {K : Kind} {waiting : List (Frame K)} {items : List (Expression K)}

theorem exists_closes (waiting : List (Frame K)) (items : List (Expression K))
    (hroom : waiting.length ≤ nestingLimit) : ∃ t es, Closes waiting items t es := by
  induction waiting generalizing items with
  | nil => exact ⟨[], items, rfl, rfl⟩
  | cons f waiting ih =>
      obtain ⟨u, es, hcloses⟩ :=
        ih (f.items ++ [.call f.caller items] ++ []) (Nat.le_of_succ_le hroom)
      exact ⟨_, es, .done .nil, u, rfl, hroom, hcloses⟩

theorem exists_ends (items : List (Expression K)) (hroom : waiting.length + 1 ≤ nestingLimit) :
    ∃ t es, Ends waiting items t es := by
  obtain ⟨u, es, hcloses⟩ := exists_closes waiting (items ++ []) (Nat.le_of_succ_le hroom)
  exact ⟨_, es, .done .nil, u, rfl, hroom, hcloses⟩

/-- One digit. -/
def digit : Digits := ⟨['0'], rfl, List.cons_ne_nil _ _⟩

/-- A state inside a list can be completed unless it is in a name that is none. -/
theorem exists_phaseDemands (phase : Phase K) (hroom : waiting.length + 1 ≤ nestingLimit)
    (hname : ∀ chars, phase = .name chars → isName chars = true) :
    ∃ t es, PhaseDemands waiting items t es phase := by
  cases phase with
  | opened =>
      obtain ⟨u, es, hcloses⟩ := exists_closes waiting (items ++ []) (Nat.le_of_succ_le hroom)
      exact ⟨_, es, .empty .nil, u, rfl, hroom, hcloses⟩
  | separated =>
      obtain ⟨u, es, hends⟩ := exists_ends (items ++ [.string []]) hroom
      exact ⟨_, es, .nil, _, rfl, .string [], u, rfl, hroom, hends⟩
  | name chars =>
      let n : Name K := ⟨chars, hname chars rfl⟩
      obtain ⟨u, es, hends⟩ := exists_ends (items ++ [.call n []]) hroom
      exact ⟨u, es, [], u, rfl, rfl, n, (List.append_nil chars).symm, .inl hends⟩
  | named n =>
      obtain ⟨u, es, hends⟩ := exists_ends (items ++ [.call n []]) hroom
      exact ⟨u, es, .inl hends⟩
  | sign =>
      obtain ⟨u, es, hends⟩ :=
        exists_ends (items ++ [.number (.ofLiteral ("-0".toList ++ []))]) hroom
      exact ⟨_, es, digit, u, rfl, none, u, rfl, hends⟩
  | whole literal =>
      obtain ⟨u, es, hends⟩ :=
        exists_ends (items ++ [.number (.ofLiteral (literal ++ [] ++ []))]) hroom
      exact ⟨u, es, [], u, rfl, rfl, none, u, rfl, hends⟩
  | point literal =>
      obtain ⟨u, es, hends⟩ :=
        exists_ends (items ++ [.number (.ofLiteral (literal ++ ['0']))]) hroom
      exact ⟨_, es, digit, u, rfl, hends⟩
  | fraction literal =>
      obtain ⟨u, es, hends⟩ := exists_ends (items ++ [.number (.ofLiteral (literal ++ []))]) hroom
      exact ⟨u, es, [], u, rfl, rfl, hends⟩
  | string chars =>
      obtain ⟨u, es, hends⟩ := exists_ends (items ++ [.string (chars ++ [])]) hroom
      exact ⟨_, es, [], u, rfl, hends⟩
  | escape chars =>
      obtain ⟨u, es, hends⟩ := exists_ends (items ++ [.string (chars ++ ['"'] ++ [])]) hroom
      exact ⟨_, es, .quote, _, rfl, [], u, rfl, hends⟩
  | complete => exact exists_ends items hroom

/-- The state is not in a name that is none, which can only be too long. -/
def Live : ReadState K → Prop
  | inside _ _ (.name chars) => isName chars = true
  | _ => True

theorem exists_demands (s : ReadState K) (hroom : s.depth ≤ nestingLimit) (hlive : s.Live) :
    ∃ t es, Demands s t es := by
  cases s with
  | before => exact ⟨[], [], .none .nil, rfl, rfl, Nat.zero_le _⟩
  | after items => exact ⟨[], items, rfl, rfl⟩
  | inside waiting items phase =>
      refine exists_phaseDemands phase hroom fun chars hphase => ?_
      subst hphase
      exact hlive

/-- A live state reads some text to its end. -/
theorem exists_run (s : ReadState K) (hroom : s.depth ≤ nestingLimit) (hlive : s.Live) :
    ∃ t s' es, s.run t = .ok s' ∧ s'.finish = .ok es := by
  obtain ⟨t, es, hdemands⟩ := exists_demands s hroom hlive
  obtain ⟨s', hrun, hfinish⟩ := (demands_iff_run s hroom).mp hdemands
  exact ⟨t, s', es, hrun, hfinish⟩

end PluginForms.ReadState
