import PluginForms.Proofs.Provider.Composed
import PluginForms.Proofs.Selector.Steps

/-!
Settings that enable some names only are a boundary: whatever is asked in front of it, the
provider behind it is asked for plugins of these names and for nothing else, so what else it
has or does makes no difference.

The first half speaks of requests, and a provider does not say what it was asked. A watched
provider does: each request is a step of its answer. Watching changes nothing else, since
building on a provider whose steps are renamed is building and then renaming the steps. For
the same reason the second half needs no induction of its own: providers that answer alike
are equal once their steps are left out, and so is what is built on them.
-/

namespace PluginForms

variable {K : Kind} {ε ε' α : Type}

namespace Provider

/-! ### Steps under other names -/

/-- The provider with the steps of its answers as `f` has them. -/
def mapSteps (f : ε → Option ε') (p : Provider K ε α) : Provider K ε' α :=
  ⟨p.infos, p.plugin.mapSteps f, fun s => (p.select s).mapSteps f⟩

variable {f : ε → Option ε'} {p : Provider K ε α}

theorem ofResolver_mapSteps (infos : Catalog K) (plugin : Resolver K ε α) :
    ofResolver infos (plugin.mapSteps f) = (ofResolver infos plugin).mapSteps f := by
  have hselect : Selector.evaluate (plugin.mapSteps f) =
      fun s => (s.evaluate plugin).mapSteps f := funext fun _ => Selector.evaluate_mapSteps _
  rw [ofResolver, hselect]
  rfl

theorem restricted_mapSteps (infos : Catalog K) :
    (p.mapSteps f).restricted infos = (p.restricted infos).mapSteps f := by
  rw [restricted, restricted, ← ofResolver_mapSteps]
  refine congrArg (ofResolver infos) ?_
  funext n values
  rw [Resolver.mapSteps]
  split
  · rfl
  · rfl

theorem restrict_mapSteps (infos : Catalog K) :
    (p.mapSteps f).restrict infos = (p.restrict infos).map (·.mapSteps f) := by
  rw [restrict, restrict, restricted_mapSteps]
  have hinfos : (p.mapSteps f).infos = p.infos := rfl
  rw [hinfos]
  split
  · rfl
  · rfl

theorem restrictNames_mapSteps (names : List (Name K)) :
    (p.mapSteps f).restrictNames names = (p.restrictNames names).map (·.mapSteps f) :=
  bind_eq_map_bind fun _ => bind_eq_map_bind fun infos => congrArg Except.ok (restricted_mapSteps infos)

theorem aliasedPlugin_mapSteps (aliases : AliasSet K) :
    aliasedPlugin aliases (p.mapSteps f) = (aliasedPlugin aliases p).mapSteps f := by
  funext n values
  rw [Resolver.mapSteps, aliasedPlugin, aliasedPlugin]
  cases aliases.expansion? n with
  | some x =>
      dsimp only
      split
      · rfl
      · rfl
  | none =>
      cases aliases.behind? n with
      | some m => rfl
      | none => rfl

theorem aliasedSelect_mapSteps (aliases : AliasSet K) (s : Selector K) :
    aliasedSelect aliases (p.mapSteps f) s = (aliasedSelect aliases p s).mapSteps f := by
  rw [aliasedSelect, aliasedSelect, Traced.mapSteps_bind, Traced.mapSteps_ofExcept,
    aliasedPlugin_mapSteps]
  refine congrArg _ (funext fun behind => ?_)
  split
  · rfl
  · simp only [Traced.mapSteps_bind, Traced.mapSteps_ofExcept, evaluateAll_mapSteps]
    rfl

theorem withAliases_mapSteps (aliases : AliasSet K) :
    (p.mapSteps f).withAliases aliases = (p.withAliases aliases).map (·.mapSteps f) := by
  have hselect : aliasedSelect aliases (p.mapSteps f) =
      fun s => (aliasedSelect aliases p s).mapSteps f := funext (aliasedSelect_mapSteps aliases)
  rw [withAliases, withAliases, aliasedPlugin_mapSteps, hselect]
  exact bind_eq_map_bind fun _ => rfl

/-- Settings do not look at steps. -/
theorem settings_mapSteps (s : Settings K) :
    s.provider (p.mapSteps f) = (s.provider p).map (·.mapSteps f) := by
  have haliased (shown : Except PluginError (Provider K ε α)) :
      (shown.map (·.mapSteps f) >>= fun q => q.withAliases s.aliases) =
        (shown >>= fun q => q.withAliases s.aliases).map (·.mapSteps f) := by
    cases shown with
    | error e => rfl
    | ok q => exact withAliases_mapSteps s.aliases
  rw [Settings.provider, Settings.provider]
  cases s.enabled with
  | some names =>
      dsimp only
      rw [restrictNames_mapSteps]
      exact haliased _
  | none =>
      dsimp only
      rw [show (p.mapSteps f).infos = p.infos from rfl, restrict_mapSteps]
      exact haliased _

/-! ### Requests -/

end Provider

/-- A request to a provider, or a step that the provider itself took. -/
inductive Request (K : Kind) (ε α : Type)
  | plugin (name : Name K) (values : List (Value α))
  | select (selector : Selector K)
  | own (step : ε)

namespace Request

def own? : Request K ε α → Option ε
  | .own e => some e
  | _ => none

/-- Only plugins are asked for, by one of the names, and no selector is. -/
def Within (names : List (Name K)) : Request K ε α → Prop
  | .plugin n _ => n ∈ names
  | .select _ => False
  | .own _ => True

/-- The answer to a request, with the request before its steps. -/
def answered (request : Request K ε α) (x : Traced ε α) : Traced (Request K ε α) α :=
  ⟨request :: x.steps.map .own, x.result⟩

theorem mapSteps_answered {request : Request K ε α} (h : request.own? = none) (x : Traced ε α) :
    (request.answered x).mapSteps own? = x := by
  have hsteps : (x.steps.map Request.own).filterMap (own? (K := K) (α := α)) = x.steps := by
    rw [List.filterMap_map]
    exact List.filterMap_some
  rw [answered, Traced.mapSteps, List.filterMap_cons, h]
  dsimp only
  rw [hsteps]

theorem only_answered {names : List (Name K)} {n : Name K} (hn : n ∈ names)
    (values : List (Value α)) (x : Traced ε α) :
    ((Request.plugin n values).answered x).Only (Within names) := by
  intro e he
  rcases List.mem_cons.mp he with rfl | he
  · exact hn
  · obtain ⟨step, -, rfl⟩ := List.mem_map.mp he
    exact trivial

end Request

namespace Provider

/-- The provider, saying what it is asked. -/
def watched (p : Provider K ε α) : Provider K (Request K ε α) α where
  infos := p.infos
  plugin n values := (Request.plugin n values).answered (p.plugin n values)
  select s := (Request.select s).answered (p.select s)

theorem mapSteps_watched (p : Provider K ε α) : p.watched.mapSteps Request.own? = p := by
  have hplugin : p.watched.plugin.mapSteps Request.own? = p.plugin :=
    funext fun _ => funext fun _ => Request.mapSteps_answered rfl _
  have hselect : (fun s => (p.watched.select s).mapSteps Request.own?) = p.select :=
    funext fun _ => Request.mapSteps_answered rfl _
  rw [mapSteps, hplugin, hselect]
  rfl

/-! ### What passes the boundary -/

section Only

variable {P : ε → Prop} {p q : Provider K ε α}

theorem only_restricted {infos : Catalog K}
    (h : ∀ n values, infos.contains n = true → (p.plugin n values).Only P) :
    (∀ n values, ((p.restricted infos).plugin n values).Only P) ∧
      ∀ s, ((p.restricted infos).select s).Only P := by
  have hplugin (n : Name K) (values : List (Value α)) :
      ((p.restricted infos).plugin n values).Only P := by
    rw [restricted, ofResolver]
    dsimp only
    split
    · rename_i hn
      exact h n values hn
    · exact Traced.only_fail _
  exact ⟨hplugin, fun s => s.only_evaluate hplugin⟩

theorem only_aliasedPlugin {aliases : AliasSet K}
    (hplugin : ∀ n values, (p.plugin n values).Only P) (hselect : ∀ s, (p.select s).Only P)
    (n : Name K) (values : List (Value α)) : (aliasedPlugin aliases p n values).Only P := by
  rw [aliasedPlugin]
  split
  · split
    · exact hselect _
    · exact Traced.only_fail _
  · split
    · exact hplugin _ _
    · exact Traced.only_fail _

theorem only_aliasedSelect {aliases : AliasSet K}
    (hplugin : ∀ n values, (p.plugin n values).Only P) (hselect : ∀ s, (p.select s).Only P)
    (s : Selector K) : (aliasedSelect aliases p s).Only P := by
  rw [aliasedSelect]
  refine Traced.only_bind (Traced.only_ofExcept _) fun behind => ?_
  split
  · exact hselect _
  · refine Traced.only_bind (Traced.only_ofExcept _) fun es => ?_
    refine Traced.only_bind (only_evaluateAll (only_aliasedPlugin hplugin hselect) es) ?_
    exact fun values => hplugin _ _

end Only

/-- What was looked up under some names is listed under these names. -/
theorem names_of_restriction {c infos : Catalog K} {names : List (Name K)} {ls : List (Listing K)}
    (hls : c.lookUp names = .ok ls) (hinfos : Catalog.ofListings ls = .ok infos) (n : Name K)
    (hn : infos.contains n = true) : n ∈ names := by
  rw [← (Catalog.names_of_lookUp hls).1]
  exact (Catalog.contains_of_ofListings hinfos).mp hn

/-- Settings that enable some names put aliases in front of a restriction to these names. -/
theorem ok_settings_of_enabled {p q : Provider K ε α} {s : Settings K} {names : List (Name K)}
    (henabled : s.enabled = some names) (h : s.provider p = .ok q) :
    ∃ infos : Catalog K, (∀ n, infos.contains n = true → n ∈ names) ∧
      (p.restricted infos).withAliases s.aliases = .ok q := by
  rw [Settings.provider, henabled] at h
  obtain ⟨shown, hshown, hq⟩ := ok_bind_iff.mp h
  obtain ⟨ls, hls, hrest⟩ := ok_bind_iff.mp hshown
  obtain ⟨infos, hinfos, hp⟩ := ok_bind_iff.mp hrest
  obtain rfl := ok_pure_iff.mp hp
  exact ⟨infos, names_of_restriction hls hinfos, hq⟩

theorem only_of_settings {p q : Provider K ε α} {s : Settings K} {names : List (Name K)}
    {P : ε → Prop} (henabled : s.enabled = some names) (h : s.provider p = .ok q)
    (hp : ∀ n ∈ names, ∀ values, (p.plugin n values).Only P) :
    (∀ n values, (q.plugin n values).Only P) ∧ ∀ x, (q.select x).Only P := by
  obtain ⟨infos, hnames, hq⟩ := ok_settings_of_enabled henabled h
  obtain ⟨-, hplugin, hselect⟩ := ok_withAliases hq
  obtain ⟨hshown, hselected⟩ := only_restricted fun n values hn => hp n (hnames n hn) values
  rw [hplugin, hselect]
  exact ⟨only_aliasedPlugin hshown hselected, only_aliasedSelect hshown hselected⟩

/-! ### What is behind the boundary -/

/-- The providers list the same and answer every request with the same result. -/
structure Alike (p : Provider K ε α) (q : Provider K ε' α) : Prop where
  infos : p.infos = q.infos
  plugin : ∀ n values, (p.plugin n values).result = (q.plugin n values).result
  select : ∀ s, (p.select s).result = (q.select s).result

/-- The provider without its steps. -/
def silent (p : Provider K ε α) : Provider K Empty α := p.mapSteps fun _ => none

theorem alike_of_silent {p : Provider K ε α} {q : Provider K ε' α} (h : p.silent = q.silent) :
    Alike p q where
  infos := congrArg infos h
  plugin n values := congrArg (fun p : Provider K Empty α => (p.plugin n values).result) h
  select s := congrArg (fun p : Provider K Empty α => (p.select s).result) h

end Provider

theorem Catalog.lookUp_congr {c c' : Catalog K} {names : List (Name K)}
    (h : ∀ n ∈ names, c.find? n = c'.find? n) : c.lookUp names = c'.lookUp names := by
  induction names with
  | nil => rfl
  | cons n names ih =>
      have hrest := ih fun m hm => h m (List.mem_cons_of_mem n hm)
      rw [lookUp] at hrest
      rw [lookUp, lookUp, List.mapM_cons, List.mapM_cons, h n List.mem_cons_self, hrest]
      rfl

namespace Provider

section Alike

variable {p : Provider K ε α} {p' : Provider K ε' α} {s : Settings K} {names : List (Name K)}

/-- The providers list the names alike and make plugins of them alike. -/
def AlikeOn (names : List (Name K)) (p : Provider K ε α) (p' : Provider K ε' α) : Prop :=
  ∀ n ∈ names, p.infos.find? n = p'.infos.find? n ∧
    ∀ values, (p.plugin n values).result = (p'.plugin n values).result

theorem silent_restricted {infos : Catalog K} (hnames : ∀ n, infos.contains n = true → n ∈ names)
    (h : AlikeOn names p p') : p.silent.restricted infos = p'.silent.restricted infos := by
  refine congrArg (ofResolver infos) ?_
  funext n values
  split
  · rename_i hn
    exact Traced.mapSteps_none_eq ((h n (hnames n hn)).2 values)
  · rfl

theorem silent_restrictNames (h : AlikeOn names p p') :
    p.silent.restrictNames names = p'.silent.restrictNames names := by
  have hlookUp : p.silent.infos.lookUp names = p'.silent.infos.lookUp names :=
    Catalog.lookUp_congr fun n hn => (h n hn).1
  rw [restrictNames, restrictNames, hlookUp]
  cases hls : p'.silent.infos.lookUp names with
  | error e => rfl
  | ok ls =>
      cases hinfos : Catalog.ofListings ls with
      | error e =>
          simp only [bind, Except.bind, hinfos]
      | ok infos =>
          have hshown : p.silent.restricted infos = p'.silent.restricted infos :=
            silent_restricted (names_of_restriction hls hinfos) h
          simp only [bind, Except.bind, hinfos, hshown]

theorem silent_settings (henabled : s.enabled = some names) (h : AlikeOn names p p') :
    s.provider p.silent = s.provider p'.silent := by
  rw [Settings.provider, Settings.provider, henabled]
  dsimp only
  rw [silent_restrictNames h]

end Alike

/-- Behind settings that enable some names nothing else is reached. Whatever is asked of the
provider that they make, the one behind it is asked for plugins of these names alone; watching
this changes no answer. So two providers that agree on these names become providers that give
the same answers, or are refused for the same reason. -/
theorem enabled_names_bound_access {s : Settings K} {names : List (Name K)}
    (henabled : s.enabled = some names) (p : Provider K ε α) (p' : Provider K ε' α) :
    (∀ q, s.provider p = .ok q → ∃ watcher, s.provider p.watched = .ok watcher ∧
      watcher.mapSteps Request.own? = q ∧
      (∀ n values, (watcher.plugin n values).Only (Request.Within names)) ∧
      ∀ x, (watcher.select x).Only (Request.Within names)) ∧
    (AlikeOn names p p' →
      match s.provider p, s.provider p' with
      | .ok q, .ok q' => Alike q q'
      | .error e, .error e' => e = e'
      | _, _ => False) := by
  constructor
  · intro q hq
    have hwatched := settings_mapSteps (f := Request.own?) (p := p.watched) s
    rw [mapSteps_watched, hq] at hwatched
    cases hwatcher : s.provider p.watched with
    | error e =>
        rw [hwatcher] at hwatched
        contradiction
    | ok watcher =>
        rw [hwatcher] at hwatched
        have hasked := only_of_settings henabled hwatcher fun n hn values =>
          Request.only_answered hn values (p.plugin n values)
        exact ⟨watcher, rfl, (Except.ok.inj hwatched).symm, hasked⟩
  · intro halike
    have hsilent := silent_settings henabled halike
    rw [silent, silent, settings_mapSteps, settings_mapSteps] at hsilent
    cases hq : s.provider p with
    | error e =>
        cases hq' : s.provider p' with
        | error e' =>
            rw [hq, hq'] at hsilent
            exact Except.error.inj hsilent
        | ok q' =>
            rw [hq, hq'] at hsilent
            contradiction
    | ok q =>
        cases hq' : s.provider p' with
        | error e' =>
            rw [hq, hq'] at hsilent
            contradiction
        | ok q' =>
            rw [hq, hq'] at hsilent
            exact alike_of_silent (Except.ok.inj hsilent)

namespace Sample

def settings : Settings kind := ⟨aliases, some [a]⟩

/-- Makes the plugins of `a` as the row does, and has answers to everything else. -/
def talkative : Provider kind Unit Nat where
  infos := {
    listings := [⟨a, ⟨⟨"urn:a".toList⟩, by decide⟩⟩, ⟨b, ⟨⟨"urn:b".toList⟩, by decide⟩⟩]
    increasing := by
      rw [Sorted.Increasing]
      decide }
  plugin n values := if n = a then ⟨[], .ok values.length⟩ else ⟨[()], .ok 99⟩
  select _ := ⟨[()], .ok 77⟩

end Sample

/-- The table and the provider that has answers to everything cannot be told apart behind
settings that enable `a` alone, and the table is only asked for `a`. -/
theorem enabled_names_bound_access_to_counter : ∃ p q : Provider Sample.kind Nat Nat,
    ofTable Sample.asWritten [Sample.row] = .ok p ∧ Sample.settings.provider p = .ok q ∧
    (q.select Sample.selector).result = .ok 1 ∧
    (∃ q', Sample.settings.provider Sample.talkative = .ok q' ∧ Alike q q') ∧
    ∃ watcher, Sample.settings.provider p.watched = .ok watcher ∧
      (watcher.select Sample.selector).Only (Request.Within [Sample.a]) := by
  obtain ⟨p, hp⟩ : ∃ p, ofTable Sample.asWritten [Sample.row] = .ok p := ⟨_, rfl⟩
  obtain ⟨q, hq, hselect⟩ : ∃ q, Sample.settings.provider p = .ok q ∧
      (q.select Sample.selector).result = .ok 1 := by
    obtain rfl := Except.ok.inj hp
    exact ⟨_, rfl, rfl⟩
  have halike : AlikeOn [Sample.a] p Sample.talkative := by
    obtain rfl := Except.ok.inj hp
    intro n hn
    rw [List.mem_singleton.mp hn]
    exact ⟨rfl, fun values => rfl⟩
  obtain ⟨hwatched, hagree⟩ :=
    enabled_names_bound_access (s := Sample.settings) rfl p Sample.talkative
  obtain ⟨watcher, hwatcher, -, -, honly⟩ := hwatched q hq
  refine ⟨p, q, hp, hq, hselect, ?_, watcher, hwatcher, honly Sample.selector⟩
  have hsame := hagree halike
  obtain ⟨q', hq'⟩ : ∃ q', Sample.settings.provider Sample.talkative = .ok q' := ⟨_, rfl⟩
  rw [hq, hq'] at hsame
  exact ⟨q', hq', hsame⟩

end Provider

end PluginForms
