import PluginForms.Proofs.Alias.View
import PluginForms.Proofs.Provider.Agreement

/-!
The catalog of a provider says what the provider does. A name that it does not list is
unknown, however the provider was built and whatever is behind it; a name that it lists
leads to one row of a table, or to an abbreviation on the way there.

One induction shows both at once, since a provider that passes names on needs the names
it sends them to to be listed, and one behind aliases needs the others to be unknown.
-/

namespace PluginForms.Provider

variable {K : Kind} {ε α : Type}
variable {urls : Url.Reader} {rows : List (TableRow K ε α)} {sets : List (AliasSet K)}

/-- A row of a table gets the values as they are, and an abbreviation takes none. -/
def Sourced (rows : List (TableRow K ε α)) (sets : List (AliasSet K))
    (make : List (Value α) → Traced ε α) : Prop :=
  (∃ r ∈ rows, make = r.factory) ∨
    ∃ aliases ∈ sets, ∃ m, (aliases.expansion? m).isSome = true ∧
      ∀ values, values ≠ [] → make values = .fail (AliasSet.takesNone m)

/-- What the catalog says of the name is what the provider does with it. -/
def Truthful (rows : List (TableRow K ε α)) (sets : List (AliasSet K)) (p : Provider K ε α)
    (n : Name K) : Prop :=
  (p.infos.contains n = false ∧ p.plugin n = fun _ => unknown n) ∨
    (p.infos.contains n = true ∧ Sourced rows sets (p.plugin n))

/-! ### One operation at a time -/

variable {p q : Provider K ε α} {n : Name K}

theorem truthful_of_ofTable {own : List (TableRow K ε α)} (hown : ∀ r ∈ own, r ∈ rows)
    (h : ofTable urls own = .ok p) : Truthful rows sets p n := by
  obtain ⟨listings, hlistings, hinfos, hplugin, -⟩ := ok_ofTable h
  have hnames : listings.map (·.name) = own.map (·.name) := by
    refine map_eq_of_mapM hlistings fun r l hl => ?_
    obtain ⟨u, -, hl⟩ := ok_bind_iff.mp hl
    rw [← ok_pure_iff.mp hl]
  have hcontains : p.infos.contains n = true ↔ ∃ r ∈ own, r.name = n := by
    rw [Catalog.contains_of_ofListings hinfos, hnames, List.mem_map]
  have hplugin := hplugin n
  cases hfind : own.find? fun r => r.name == n with
  | none =>
      rw [hfind] at hplugin
      refine .inl ⟨Bool.eq_false_iff.mpr fun hn => ?_, hplugin⟩
      obtain ⟨r, hr, hname⟩ := hcontains.mp hn
      exact List.find?_eq_none.mp hfind r hr (beq_iff_eq.mpr hname)
  | some r =>
      rw [hfind] at hplugin
      have hr := List.mem_of_find?_eq_some hfind
      have hname := List.find?_some hfind
      exact .inr ⟨hcontains.mpr ⟨r, hr, beq_iff_eq.mp hname⟩, .inl ⟨r, hown r hr, hplugin⟩⟩

theorem truthful_of_routes {route : Name K → Option (Name K)} (hroutes : Routes p q route)
    (hp : ∀ m, Truthful rows sets p m) : Truthful rows sets q n := by
  have hcontains := hroutes.contains n
  cases hroute : route n with
  | none =>
      rw [hroute] at hcontains
      refine .inl ⟨hcontains, ?_⟩
      funext values
      rw [hroutes.plugin, hroute]
  | some m =>
      rw [hroute] at hcontains
      have hplugin : q.plugin n = p.plugin m := by
        funext values
        rw [hroutes.plugin, hroute]
      rcases hp m with ⟨hmissing, -⟩ | ⟨-, hsourced⟩
      · rw [hroutes.target n m hroute] at hmissing
        contradiction
      · exact .inr ⟨hcontains, hplugin ▸ hsourced⟩

theorem truthful_of_withAliases {aliases : AliasSet K} (hset : aliases ∈ sets)
    (h : p.withAliases aliases = .ok q) (hp : ∀ m, Truthful rows sets p m) :
    Truthful rows sets q n := by
  obtain ⟨hinfos, hplugin, -⟩ := ok_withAliases h
  have hcontains : q.infos.contains n = true ↔ aliases.Shows p.infos n :=
    AliasSet.contains_apply hinfos
  rw [Truthful, hplugin, ← Bool.not_eq_true, hcontains]
  cases hexpansion : aliases.expansion? n with
  | some x =>
      have hsome : (aliases.expansion? n).isSome = true := by rw [hexpansion]; rfl
      refine .inr ⟨.inl hsome, .inr ⟨aliases, hset, n, hsome, fun values hvalues => ?_⟩⟩
      cases values with
      | nil => contradiction
      | cons v vs =>
          rw [aliasedPlugin, hexpansion]
          rfl
  | none =>
      cases hbehind : aliases.behind? n with
      | none =>
          refine .inl ⟨by simp [AliasSet.Shows, hexpansion, hbehind], ?_⟩
          funext values
          exact aliasedPlugin_of_hidden hexpansion hbehind
      | some m =>
          have hshows : aliases.Shows p.infos n ↔ p.infos.contains m = true := by
            simp [AliasSet.Shows, hexpansion, hbehind]
          rw [aliasedPlugin_of_behind hexpansion hbehind, hshows]
          -- only a name that no alias mentions is behind itself without being listed
          rcases hp m with ⟨hmissing, hunknown⟩ | htruthful
          · rcases AliasSet.behind?_eq_or_contains hinfos hbehind with rfl | hm
            · exact .inl ⟨Bool.eq_false_iff.mp hmissing, hunknown⟩
            · rw [hmissing] at hm
              contradiction
          · exact .inr htruthful

theorem truthful_of_collect {ps : List (Provider K ε α)} (h : collect ps = .ok q)
    (hps : ∀ p ∈ ps, ∀ m, Truthful rows sets p m) : Truthful rows sets q n := by
  obtain ⟨hinfos, hplugin, -⟩ := ok_collect h
  have hcontains : q.infos.contains n = true ↔ ∃ p ∈ ps, p.infos.contains n = true := by
    rw [Catalog.contains_of_ofListings hinfos, List.map_flatMap, List.mem_flatMap]
    exact exists_congr fun p => and_congr_right fun _ => Catalog.contains_iff_mem_names.symm
  rw [Truthful, hplugin]
  cases hfind : ps.find? fun p => p.infos.contains n with
  | none =>
      refine .inl ⟨Bool.eq_false_iff.mpr fun hn => ?_, rfl⟩
      obtain ⟨p, hp, hpn⟩ := hcontains.mp hn
      exact List.find?_eq_none.mp hfind p hp hpn
  | some p =>
      have hp := List.mem_of_find?_eq_some hfind
      have hpn := List.find?_some hfind
      rcases hps p hp n with ⟨hmissing, -⟩ | ⟨-, hsourced⟩
      · rw [hmissing] at hpn
        contradiction
      · exact .inr ⟨hcontains.mpr ⟨p, hp, hpn⟩, hsourced⟩

/-! ### The whole provider -/

theorem Composed.truthful (h : Composed urls rows sets p) (n : Name K) :
    Truthful rows sets p n := by
  refine Composed.induction (P := fun p => ∀ n, Truthful rows sets p n)
    ?table ?routed ?aliased ?collected h n
  case table => exact fun own p hown h n => truthful_of_ofTable hown h
  case routed => exact fun p q route ih hroutes n => truthful_of_routes hroutes ih
  case aliased => exact fun p q aliases hset ih h n => truthful_of_withAliases hset h ih
  case collected => exact fun ps q ih h n => truthful_of_collect h ih

/-- The names that are listed are the domain of the provider. Any other name is unknown,
for itself and wherever a selector mentions it; each of them comes from one place. -/
theorem listed_names_are_domain (h : Composed urls rows sets p) :
    (∀ n, n ∉ p.infos.names → ∀ values,
      p.plugin n values = .fail (.unknown K.label n.chars)) ∧
    (∀ s e n, s.expression = .ok e → n ∈ e.names → n ∉ p.infos.names →
      ∃ r, (p.select s).result = .error r) ∧
    (∀ n, n ∈ p.infos.names → Sourced rows sets (p.plugin n)) := by
  have hunknown : ∀ n, n ∉ p.infos.names → p.plugin n = fun _ => unknown n := by
    intro n hn
    rcases h.truthful n with ⟨-, hplugin⟩ | ⟨hcontains, -⟩
    · exact hplugin
    · exact absurd (Catalog.contains_iff_mem_names.mp hcontains) hn
  refine ⟨fun n hn values => ?_, fun s e n he hmem hn => ?_, fun n hn => ?_⟩
  · rw [hunknown n hn]
    rfl
  · cases hresult : (p.select s).result with
    | error r => exact ⟨r, rfl⟩
    | ok a =>
        have hselect : p.select s = ⟨(p.select s).steps, .ok a⟩ := by rw [← hresult]
        obtain ⟨e', he', hevaluate⟩ := Selector.evaluate_iff.mp ((h.agrees s _ a).mp hselect)
        obtain rfl := Except.ok.inj (he.symm.trans he')
        -- the selection succeeded, so the plugin of every name was made, that of `n` too
        obtain ⟨values, steps, b, hmade⟩ := Expression.makes_of_mem_names hevaluate hmem
        rw [hunknown n hn] at hmade
        exact absurd hmade Traced.fail_ne_ok
  · rcases h.truthful n with ⟨hmissing, -⟩ | ⟨-, hsourced⟩
    · rw [Catalog.contains_iff_mem_names.mpr hn] at hmissing
      contradiction
    · exact hsourced

/-- Behind the aliases of the sample the table's own name is unknown, and the others have
a source. -/
theorem listed_names_are_domain_behind_aliases : ∃ q : Provider Sample.kind Nat Nat,
    q.infos.names = [Sample.b, Sample.c] ∧
      (∀ values, q.plugin Sample.a values = .fail (.unknown "counter".toList "a".toList)) ∧
      Sourced [Sample.row] [Sample.aliases] (q.plugin Sample.b) ∧
      Sourced [Sample.row] [Sample.aliases] (q.plugin Sample.c) := by
  obtain ⟨p, q, -, -, hcomposed, hnames, -⟩ := Sample.exists_composed
  obtain ⟨hunknown, -, hsourced⟩ := listed_names_are_domain hcomposed
  rw [hnames] at hunknown hsourced
  exact ⟨q, hnames, hunknown Sample.a (by decide), hsourced Sample.b (by decide),
    hsourced Sample.c (by decide)⟩

end PluginForms.Provider
