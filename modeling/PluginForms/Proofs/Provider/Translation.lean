import PluginForms.Proofs.Provider.Boundary
import PluginForms.Proofs.Provider.Identity

/-!
Evaluation in front of a facade is evaluation behind it, with the names that are shown replaced
by the names they stand for. A name that is not shown ends it, and whatever happens, the
provider behind the facade is asked for nothing but plugins of the names that are shown.

What it is asked for shows when it is watched. A facade does not look at steps, so a facade of
the watched provider answers as the facade does, and says what was asked.
-/

namespace PluginForms

variable {K : Kind} {ε ε' α : Type}

/-! ### Facades and steps -/

namespace Provider

variable {f : ε → Option ε'} {p : Provider K ε α}

theorem mapped_mapSteps (m : NameMapping K) :
    (p.mapSteps f).mapped m = (p.mapped m).mapSteps f := by
  rw [mapped, mapped, ← ofResolver_mapSteps]
  refine congrArg (ofResolver m.infos) ?_
  funext n values
  rw [Resolver.mapSteps]
  split
  · rfl
  · rfl

theorem overlaid_mapSteps (m : NameMapping K) :
    (p.mapSteps f).overlaid m = (p.overlaid m).map (·.mapSteps f) := by
  have hinfos : (p.mapSteps f).infos = p.infos := rfl
  simp only [overlaid, hinfos]
  split
  · refine bind_eq_map_bind fun infos => congrArg Except.ok ?_
    refine (congrArg (ofResolver infos) ?_).trans (ofResolver_mapSteps infos _)
    funext n values
    rw [Resolver.mapSteps]
    split
    · rfl
    · split
      · rfl
      · rfl
  · rfl

end Provider

namespace Facade

open Provider

variable {p q : Provider K ε α} {facade : Facade K}

theorem build_mapSteps (facade : Facade K) (f : ε → Option ε') (p : Provider K ε α) :
    facade.build (p.mapSteps f) = (facade.build p).map (·.mapSteps f) := by
  cases facade with
  | restrict infos => exact restrict_mapSteps infos
  | restrictNames names => exact restrictNames_mapSteps names
  | mapByUrl declared => exact bind_eq_map_bind fun m => congrArg Except.ok (mapped_mapSteps m)
  | mapByName pairs => exact bind_eq_map_bind fun m => congrArg Except.ok (mapped_mapSteps m)
  | overlayByUrl declared => exact bind_eq_map_bind overlaid_mapSteps
  | overlayByName pairs => exact bind_eq_map_bind overlaid_mapSteps

/-- The facade of the watched provider is the facade, with what was asked behind it. -/
theorem exists_watcher (h : facade.build p = .ok q) :
    ∃ watcher, facade.build p.watched = .ok watcher ∧ watcher.mapSteps Request.own? = q := by
  have hwatched := facade.build_mapSteps Request.own? p.watched
  rw [mapSteps_watched, h] at hwatched
  cases hwatcher : facade.build p.watched with
  | error e =>
      rw [hwatcher] at hwatched
      contradiction
  | ok watcher =>
      rw [hwatcher] at hwatched
      exact ⟨watcher, rfl, (Except.ok.inj hwatched).symm⟩

/-- Behind the facade only plugins of the names that are shown are asked for. -/
theorem only_asked {watcher : Provider K (Request K ε α) α}
    (h : facade.build p.watched = .ok watcher) (n : Name K) (values : List (Value α)) :
    (watcher.plugin n values).Only
      (Request.Within (watcher.infos.names.map (facade.inner p.infos))) := by
  by_cases hn : n ∈ watcher.infos.names
  · rw [plugin_of_listed h hn]
    exact Request.only_answered (List.mem_map_of_mem hn) values _
  · rw [plugin_of_unlisted h hn]
    exact Traced.only_fail _

/-- If all names of a tree are listed by a facade, evaluating the tree there is evaluating it
behind the facade with each name replaced by the one it stands for, by the same steps and with
the same errors. Otherwise the evaluation fails. Either way nothing but plugins of the names
that stand behind the listed ones is asked for. -/
theorem renaming_commutes_with_evaluation (h : facade.build p = .ok q) :
    (∀ e : Expression K, (∀ n ∈ e.names, n ∈ q.infos.names) →
      e.evaluate q.plugin = (e.mapNames (facade.inner p.infos)).evaluate p.plugin) ∧
    (∀ e : Expression K, (∃ n ∈ e.names, n ∉ q.infos.names) →
      ∃ err, (e.evaluate q.plugin).result = .error err) ∧
    ∃ watcher, facade.build p.watched = .ok watcher ∧ watcher.mapSteps Request.own? = q ∧
      ∀ e : Expression K, (e.evaluate watcher.plugin).Only
        (Request.Within (q.infos.names.map (facade.inner p.infos))) := by
  refine ⟨fun e hlisted => ?_, fun e hunlisted => ?_, ?_⟩
  · exact e.evaluate_mapNames fun n hn => plugin_of_listed h (hlisted n hn)
  · obtain ⟨n, hn, hmissing⟩ := hunlisted
    refine e.exists_error_of_mem_names hn fun ⟨values, steps, a, hmade⟩ => ?_
    rw [plugin_of_unlisted h hmissing] at hmade
    exact Traced.fail_ne_ok hmade
  · obtain ⟨watcher, hwatcher, rfl⟩ := exists_watcher h
    exact ⟨watcher, hwatcher, rfl, fun e => e.only_evaluate (only_asked hwatcher)⟩

namespace Sample

open Provider.Sample

/-- A table, and an overlay of it that swaps its two names. -/
theorem exists_swapped : ∃ p q : Provider kind Nat Nat, ofTable asWritten [row, other] = .ok p ∧
    (Facade.overlayByName [(a, b), (b, a)]).build p = .ok q ∧ q.infos.names = [a, b] ∧
      (Expression.call b [.call a []]).evaluate p.plugin = ⟨[0, 11], .ok (.plugin 11)⟩ :=
  ⟨_, _, rfl, rfl, by decide, rfl⟩

end Sample

open Provider.Sample in
/-- With the names of the table swapped, the call `a(b)` is the call `b(a)` of the table, and
`a(c)` fails. -/
theorem renaming_commutes_with_evaluation_when_swapped :
    ∃ p q : Provider kind Nat Nat, p.overlayByName [(a, b), (b, a)] = .ok q ∧
      (Expression.call a [.call b []]).evaluate q.plugin = ⟨[0, 11], .ok (.plugin 11)⟩ ∧
      (∃ err, ((Expression.call a [.call c []]).evaluate q.plugin).result = .error err) ∧
      ∃ watcher, p.watched.overlayByName [(a, b), (b, a)] = .ok watcher ∧
        ((Expression.call a [.call b []]).evaluate watcher.plugin).Only
          (Request.Within [b, a]) := by
  obtain ⟨p, q, -, hq, hnames, hbehind⟩ := Sample.exists_swapped
  obtain ⟨hlisted, hunlisted, watcher, hwatcher, -, honly⟩ := renaming_commutes_with_evaluation hq
  rw [hnames] at hlisted hunlisted honly
  refine ⟨p, q, hq, ?_, ?_, watcher, hwatcher, honly _⟩
  · rw [hlisted (.call a [.call b []]) (by decide)]
    exact hbehind
  · exact hunlisted (.call a [.call c []]) ⟨c, by decide, by decide⟩

end Facade

end PluginForms
