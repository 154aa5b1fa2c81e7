import PluginForms.Proofs.Provider.Ownership
import PluginForms.Proofs.Provider.Routing
import PluginForms.Provider.Aliased

/-!
The providers that can be built: tables, and whatever the operations of this library
make of providers that were built before. A pointer to a provider passes every request
on, so it is that provider and needs no rule of its own.

The rules are many, but for what a provider answers there are only four ways to build
one: a table, a provider that passes names on, one behind aliases, and several side by
side. `Composed.induction` is the induction over these.
-/

namespace PluginForms

variable {K : Kind} {ε α : Type}

namespace Provider

/-- Built from tables with rows among `rows`, through aliases among `sets`. -/
inductive Composed (urls : Url.Reader) (rows : List (TableRow K ε α)) (sets : List (AliasSet K)) :
    Provider K ε α → Prop
  | table {own : List (TableRow K ε α)} {p : Provider K ε α} (hown : ∀ r ∈ own, r ∈ rows)
      (h : ofTable urls own = .ok p) : Composed urls rows sets p
  | restrict {p q : Provider K ε α} {infos : Catalog K} (hp : Composed urls rows sets p)
      (h : p.restrict infos = .ok q) : Composed urls rows sets q
  | restrictNames {p q : Provider K ε α} {names : List (Name K)}
      (hp : Composed urls rows sets p) (h : p.restrictNames names = .ok q) :
      Composed urls rows sets q
  | mapByUrl {p q : Provider K ε α} {declared : Catalog K} (hp : Composed urls rows sets p)
      (h : p.mapByUrl declared = .ok q) : Composed urls rows sets q
  | mapByName {p q : Provider K ε α} {pairs : List (Name K × Name K)}
      (hp : Composed urls rows sets p) (h : p.mapByName pairs = .ok q) :
      Composed urls rows sets q
  | overlayByUrl {p q : Provider K ε α} {declared : Catalog K} (hp : Composed urls rows sets p)
      (h : p.overlayByUrl declared = .ok q) : Composed urls rows sets q
  | overlayByName {p q : Provider K ε α} {pairs : List (Name K × Name K)}
      (hp : Composed urls rows sets p) (h : p.overlayByName pairs = .ok q) :
      Composed urls rows sets q
  | withAliases {p q : Provider K ε α} {aliases : AliasSet K} (hp : Composed urls rows sets p)
      (hset : aliases ∈ sets) (h : p.withAliases aliases = .ok q) : Composed urls rows sets q
  | collect {ps : List (Provider K ε α)} {q : Provider K ε α}
      (hps : ∀ p ∈ ps, Composed urls rows sets p) (h : collect ps = .ok q) :
      Composed urls rows sets q
  | settings {p q : Provider K ε α} {s : Settings K} (hp : Composed urls rows sets p)
      (hset : s.aliases ∈ sets) (h : s.provider p = .ok q) : Composed urls rows sets q

variable {urls : Url.Reader} {rows : List (TableRow K ε α)} {sets : List (AliasSet K)}

/-- A table lists its rows and makes the plugin of a name by the first row that has it. -/
theorem ok_ofTable {own : List (TableRow K ε α)} {p : Provider K ε α}
    (h : ofTable urls own = .ok p) : ∃ listings,
      own.mapM (fun r => Listing.ofUrl urls r.name r.url) = .ok listings ∧
      Catalog.ofListings listings = .ok p.infos ∧
      (∀ n, p.plugin n =
        (own.find? fun r => r.name == n).elim (fun _ => unknown n) (·.factory)) ∧
      p.select = Selector.evaluate p.plugin := by
  obtain ⟨listings, hlistings, hrest⟩ := ok_bind_iff.mp h
  obtain ⟨infos, hinfos, hp⟩ := ok_bind_iff.mp hrest
  rw [← ok_pure_iff.mp hp]
  refine ⟨listings, hlistings, hinfos, fun n => ?_, rfl⟩
  cases hfind : own.find? fun r => r.name == n with
  | some r => simp only [ofResolver, hfind, Option.elim_some]
  | none => simp only [ofResolver, hfind, Option.elim_none]

theorem ok_withAliases {p q : Provider K ε α} {aliases : AliasSet K}
    (h : p.withAliases aliases = .ok q) : aliases.apply p.infos = .ok q.infos ∧
      q.plugin = aliasedPlugin aliases p ∧ q.select = aliasedSelect aliases p := by
  obtain ⟨infos, hinfos, hq⟩ := ok_bind_iff.mp h
  rw [← ok_pure_iff.mp hq]
  exact ⟨hinfos, rfl, rfl⟩

theorem ok_collect {ps : List (Provider K ε α)} {q : Provider K ε α} (h : collect ps = .ok q) :
    Catalog.ofListings (ps.flatMap (·.infos.listings)) = .ok q.infos ∧
      (∀ n, q.plugin n =
        (ps.find? fun p => p.infos.contains n).elim (fun _ => unknown n) (·.plugin n)) ∧
      q.select = Selector.evaluate q.plugin := by
  rw [collect_eq] at h
  cases hinfos : Catalog.ofListings (ps.flatMap (·.infos.listings)) with
  | error e =>
      rw [hinfos] at h
      contradiction
  | ok infos =>
      rw [hinfos] at h
      obtain rfl := Except.ok.inj h
      refine ⟨rfl, fun n => ?_, rfl⟩
      cases hfind : ps.find? fun p => p.infos.contains n with
      | some p => simp only [ofResolver, hfind, Option.elim_some]
      | none => simp only [ofResolver, hfind, Option.elim_none]

/-- Settings show a part of the provider through aliases. -/
theorem ok_settings {p q : Provider K ε α} {s : Settings K} (h : s.provider p = .ok q) :
    ∃ (facade : Facade K) (shown : Provider K ε α),
      facade.build p = .ok shown ∧ shown.withAliases s.aliases = .ok q := by
  rw [Settings.provider] at h
  cases henabled : s.enabled with
  | some names =>
      rw [henabled] at h
      obtain ⟨shown, hshown, hq⟩ := ok_bind_iff.mp h
      exact ⟨.restrictNames names, shown, hshown, hq⟩
  | none =>
      rw [henabled] at h
      obtain ⟨shown, hshown, hq⟩ := ok_bind_iff.mp h
      exact ⟨.restrict p.infos, shown, hshown, hq⟩

theorem Composed.induction {P : Provider K ε α → Prop}
    (table : ∀ own p, (∀ r ∈ own, r ∈ rows) → ofTable urls own = .ok p → P p)
    (routed : ∀ p q route, P p → Routes p q route → P q)
    (aliased : ∀ p q, ∀ aliases ∈ sets, P p → p.withAliases aliases = .ok q → P q)
    (collected : ∀ ps q, (∀ p ∈ ps, P p) → Provider.collect ps = .ok q → P q)
    {p : Provider K ε α} (h : Composed urls rows sets p) : P p := by
  have shown (facade : Facade K) {p q : Provider K ε α} (ih : P p) (h : facade.build p = .ok q) :
      P q := routed p q _ ih (Facade.routes h)
  induction h with
  | table hown h => exact table _ _ hown h
  | @restrict p q infos _ h ih => exact shown (.restrict infos) ih h
  | @restrictNames p q names _ h ih => exact shown (.restrictNames names) ih h
  | @mapByUrl p q declared _ h ih => exact shown (.mapByUrl declared) ih h
  | @mapByName p q pairs _ h ih => exact shown (.mapByName pairs) ih h
  | @overlayByUrl p q declared _ h ih => exact shown (.overlayByUrl declared) ih h
  | @overlayByName p q pairs _ h ih => exact shown (.overlayByName pairs) ih h
  | withAliases _ hset h ih => exact aliased _ _ _ hset ih h
  | collect _ h ih => exact collected _ _ ih h
  | settings _ hset h ih =>
      obtain ⟨facade, front, hfront, hq⟩ := ok_settings h
      exact aliased _ _ _ hset (shown facade ih hfront) hq

/-! ### A sample

A table with the plugin `a`, which counts its values, behind aliases that show it as `b`
and abbreviate one of its selectors as `c`. -/

namespace Sample

def kind : Kind := ⟨"counter".toList, []⟩

def asWritten : Url.Reader := fun t => .ok ⟨t⟩

def a : Name kind := ⟨"a".toList, by decide⟩

def b : Name kind := ⟨"b".toList, by decide⟩

def c : Name kind := ⟨"c".toList, by decide⟩

def row : TableRow kind Nat Nat :=
  ⟨a, ⟨"urn:a".toList⟩, fun values => ⟨[values.length], .ok values.length⟩⟩

def aliases : AliasSet kind where
  aliases := [.standsFor b (.bare a) none, .standsFor c ⟨a, "(a, 1)".toList, by decide⟩ none]
  increasing := by
    refine List.pairwise_cons.mpr ⟨fun d hd => ?_, List.pairwise_singleton _ _⟩
    rw [List.mem_singleton.mp hd]
    decide
  unshadowed := by decide

def selector : Selector kind := ⟨b, "(c)".toList, by decide⟩

theorem exists_composed : ∃ p q : Provider kind Nat Nat, Composed asWritten [row] [] p ∧
    p.withAliases aliases = .ok q ∧ Composed asWritten [row] [aliases] q ∧
    q.infos.names = [b, c] ∧ q.select selector = ⟨[0, 2, 1], .ok 1⟩ := by
  refine ⟨_, _, .table (fun r hr => hr) rfl, rfl, ?_, by decide, rfl⟩
  exact .withAliases (.table (fun r hr => hr) rfl) List.mem_cons_self rfl

end Sample

end Provider

end PluginForms
