import PluginForms.Catalog.Basic
import PluginForms.Selector.Evaluation

/-!
A provider says which plugins it has and makes them, either from a name and
values or from a selector. Most providers make a plugin from a selector by
evaluating it with their own names; `ofResolver` builds those. A table is where
plugins come from in the end, and `collect` puts providers side by side that share
no name.
-/

namespace PluginForms

structure Provider (K : Kind) (ε α : Type) where
  infos : Catalog K
  plugin : Resolver K ε α
  select : Selector K → Traced ε α

/-- Makes one plugin from the values of its parameters. -/
structure TableRow (K : Kind) (ε α : Type) where
  name : Name K
  url : Url
  factory : List (Value α) → Traced ε α

/-- Which of several catalogs each name is in, by its place among them, and the names that were
noted for more than one. -/
structure Ownership (K : Kind) where
  place? : Name K → Option Nat := fun _ => none
  repeated : List (Name K) := []

namespace Ownership

variable {K : Kind}

/-- Notes `place` for `n`, whatever was noted for it before. -/
def enter (place : Nat) (o : Ownership K) (n : Name K) : Ownership K where
  place? k := if k = n then some place else o.place? k
  repeated := if (o.place? n).isSome then o.repeated ++ [n] else o.repeated

def ofCatalogs (catalogs : List (Catalog K)) : Ownership K :=
  catalogs.zipIdx.foldl (fun o c => c.1.names.foldl (enter c.2) o) {}

end Ownership

namespace Provider

variable {K : Kind} {ε α : Type}

def unknown (n : Name K) : Traced ε α := .fail (.unknownName n)

def ofResolver (infos : Catalog K) (plugin : Resolver K ε α) : Provider K ε α :=
  ⟨infos, plugin, Selector.evaluate plugin⟩

def ofTable (urls : Url.Reader) (rows : List (TableRow K ε α)) :
    Except PluginError (Provider K ε α) := do
  let listings ← rows.mapM fun r => Listing.ofUrl urls r.name r.url
  let infos ← Catalog.ofListings listings
  return ofResolver infos fun n values =>
    match rows.find? fun r => r.name == n with
    | some r => r.factory values
    | none => unknown n

/-- The providers side by side, each with the names it has. A name belongs to the provider at
the place that was noted for it. -/
def collect (providers : List (Provider K ε α)) : Except PluginError (Provider K ε α) :=
  let owners := Ownership.ofCatalogs (providers.map (·.infos))
  match owners.repeated with
  | [] => do
    let infos ← Catalog.ofListings (providers.flatMap (·.infos.listings))
    return ofResolver infos fun n values =>
      match (owners.place? n).bind (providers[·]?) with
      | some p => p.plugin n values
      | none => unknown n
  | names => .error (duplicateNames K (names.map (·.chars)))

end Provider

end PluginForms
