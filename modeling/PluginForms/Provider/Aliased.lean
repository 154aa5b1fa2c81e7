import PluginForms.Alias.Set
import PluginForms.Provider.Mapping

/-!
A provider seen through aliases. It is asked for the names behind the aliases, and
an abbreviation becomes its selector, which is evaluated behind them as well. The
parameters of any other selector are evaluated in front of the aliases.
-/

namespace PluginForms

namespace Provider

variable {K : Kind} {ε α : Type}

def aliasedPlugin (aliases : AliasSet K) (p : Provider K ε α) : Resolver K ε α :=
  fun n values =>
    match aliases.expansion? n with
    | some s => if values.isEmpty then p.select s else .fail (AliasSet.takesNone n)
    | none =>
      match aliases.behind? n with
      | some m => p.plugin m values
      | none => unknown n

def aliasedSelect (aliases : AliasSet K) (p : Provider K ε α) (s : Selector K) : Traced ε α := do
  let behind ← Traced.ofExcept (aliases.unalias s)
  if (aliases.expansion? s.name).isSome then p.select behind
  else
    let parameters ← Traced.ofExcept s.parameters
    let values ← evaluateAll (aliasedPlugin aliases p) parameters
    p.plugin behind.name values

def withAliases (p : Provider K ε α) (aliases : AliasSet K) :
    Except PluginError (Provider K ε α) := do
  let infos ← aliases.apply p.infos
  return ⟨infos, aliasedPlugin aliases p, aliasedSelect aliases p⟩

end Provider

/-- How a provider is to be shown: which of its plugins, all of them if nothing is
said, and through which aliases. -/
structure Settings (K : Kind) where
  aliases : AliasSet K := .empty
  enabled : Option (List (Name K)) := none
  deriving DecidableEq

namespace Settings

variable {K : Kind} {ε α : Type}

def provider (s : Settings K) (p : Provider K ε α) : Except PluginError (Provider K ε α) := do
  let shown ←
    match s.enabled with
    | some names => p.restrictNames names
    | none => p.restrict p.infos
  shown.withAliases s.aliases

end Settings

end PluginForms
