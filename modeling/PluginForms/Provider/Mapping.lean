import PluginForms.Provider.Basic

/-!
Providers that show a part of another provider, possibly under other names. A
restriction keeps names; a mapping gives each outer name an inner one, declared
by names or by urls. `mapped` shows the outer names alone, `overlaid` shows the
inner names that are not mapped as well.
-/

namespace PluginForms

namespace Provider

variable {K : Kind} {ε α : Type}

/-- The plugins of `p` that `infos` lists, and no others. -/
def restricted (p : Provider K ε α) (infos : Catalog K) : Provider K ε α :=
  ofResolver infos fun n values => if infos.contains n then p.plugin n values else unknown n

def restrict (p : Provider K ε α) (infos : Catalog K) : Except PluginError (Provider K ε α) :=
  match infos.names.find? fun n => !p.infos.contains n with
  | some n => .error (.unknownName n)
  | none => .ok (p.restricted infos)

end Provider

/-- The listing of each name, if all of them have one. -/
def Catalog.lookUp {K : Kind} (c : Catalog K) (names : List (Name K)) :
    Except PluginError (List (Listing K)) :=
  names.mapM fun n =>
    match c.find? n with
    | some l => .ok l
    | none => .error (.unknownName n)

def Provider.restrictNames {K : Kind} {ε α : Type} (p : Provider K ε α) (names : List (Name K)) :
    Except PluginError (Provider K ε α) := do
  return p.restricted (← Catalog.ofListings (← p.infos.lookUp names))

/-- Outer names with their inner names, and how the outer ones are listed. -/
structure NameMapping (K : Kind) where
  pairs : List (Name K × Name K)
  infos : Catalog K

namespace NameMapping

variable {K : Kind}

def inner? (m : NameMapping K) (n : Name K) : Option (Name K) := m.pairs.lookup n

def isInner (m : NameMapping K) (n : Name K) : Bool := m.pairs.any fun p => p.2 == n

/-- The names that come again after `seen`, each time they do. -/
def again (seen : List (Name K)) : List (Name K) → List (Name K)
  | [] => []
  | n :: ns => if seen.contains n then n :: again seen ns else again (n :: seen) ns

/-- No two outer names may share an inner one. -/
def ofPairs (pairs : List (Name K × Name K)) (infos : Catalog K) :
    Except PluginError (NameMapping K) :=
  match again [] (pairs.map (·.2)) with
  | [] => .ok ⟨pairs, infos⟩
  | names => .error (.clash (.notInjective K.label (names.map (·.chars))))

/-- Each listing of `declared` stands for the first plugin of `c` with its url. -/
def byUrl (declared c : Catalog K) : Except PluginError (NameMapping K) := do
  let pairs ← declared.listings.mapM fun l =>
    match c.withUrl? l.url with
    | some target => .ok (l.name, target.name)
    | none => .error (.unknownName l.name)
  ofPairs pairs declared

/-- Each outer name has the url of its inner one. -/
def byName (pairs : List (Name K × Name K)) (c : Catalog K) :
    Except PluginError (NameMapping K) := do
  let targets ← c.lookUp (pairs.map (·.2))
  let infos ← Catalog.ofListings (List.zipWith (fun p l => l.rename p.1) pairs targets)
  ofPairs pairs infos

end NameMapping

namespace Provider

variable {K : Kind} {ε α : Type}

/-- The plugins that are mapped, under their outer names. -/
def mapped (p : Provider K ε α) (m : NameMapping K) : Provider K ε α :=
  ofResolver m.infos fun n values =>
    match m.inner? n with
    | some inner => p.plugin inner values
    | none => unknown n

def mapByUrl (p : Provider K ε α) (declared : Catalog K) :
    Except PluginError (Provider K ε α) := do
  return p.mapped (← NameMapping.byUrl declared p.infos)

def mapByName (p : Provider K ε α) (pairs : List (Name K × Name K)) :
    Except PluginError (Provider K ε α) := do
  return p.mapped (← NameMapping.byName pairs p.infos)

/-- The mapped plugins under their outer names and the others under their own. -/
def overlaid (p : Provider K ε α) (m : NameMapping K) : Except PluginError (Provider K ε α) := do
  let passed := p.infos.filter fun l => !m.isInner l.name
  match m.infos.names.filter passed.contains with
  | [] =>
    let infos ← Catalog.ofListings (m.infos.listings ++ passed.listings)
    return ofResolver infos fun n values =>
      match m.inner? n with
      | some inner => p.plugin inner values
      | none => if infos.contains n then p.plugin n values else unknown n
  | names => throw (duplicateNames K (names.map (·.chars)))

def overlayByUrl (p : Provider K ε α) (declared : Catalog K) :
    Except PluginError (Provider K ε α) := do
  p.overlaid (← NameMapping.byUrl declared p.infos)

def overlayByName (p : Provider K ε α) (pairs : List (Name K × Name K)) :
    Except PluginError (Provider K ε α) := do
  p.overlaid (← NameMapping.byName pairs p.infos)

end Provider

end PluginForms
