import PluginForms.Alias.Basic
import PluginForms.Catalog.Basic

/-!
Sets of aliases, in the order of their names, each name once. No alias renames
itself, and what some alias renames is not the name of an alias that stands for
something, so renaming takes one step and no more.

A set acts on names, on selectors and on catalogs. A renamed plugin is hidden
under its own name unless a plain alias keeps it visible.
-/

namespace PluginForms

def Alias.key {K : Kind} (a : Alias K) : Text := a.name.chars

/-- The names that the aliases rename. -/
def Alias.targets {K : Kind} (as : List (Alias K)) : List (Name K) := as.filterMap (·.target?)

/-- The alias stands for something under a name that is itself renamed. -/
def Alias.isShadowed {K : Kind} (as : List (Alias K)) (a : Alias K) : Bool :=
  !a.isPlain && (targets as).contains a.name

structure AliasSet (K : Kind) where
  aliases : List (Alias K)
  increasing : Sorted.Increasing Alias.key aliases
  unshadowed : aliases.filter (Alias.isShadowed aliases) = []

instance {K : Kind} : DecidableEq (AliasSet K) := fun a b =>
  decidable_of_iff (a.aliases = b.aliases) (by cases a; cases b; simp)

namespace AliasSet

variable {K : Kind}

def empty : AliasSet K := ⟨[], .nil, rfl⟩

def ofAliases (as : List (Alias K)) : Except PluginError (AliasSet K) :=
  match as.find? fun a => a.target? == some a.name with
  | some a => .error (.clash (.selfRename a.name.chars))
  | none =>
    match Sorted.repeated Alias.key as with
    | [] =>
      let sorted := Sorted.ofList Alias.key as
      match h : sorted.filter (Alias.isShadowed sorted) with
      | [] => .ok ⟨sorted, Sorted.increasing_ofList _ as, h⟩
      | shadowed => .error (.clash (.aliasRenamed (shadowed.map (·.name.chars))))
    | names => .error (duplicateNames K names)

def size (s : AliasSet K) : Nat := s.aliases.length

def isEmpty (s : AliasSet K) : Bool := s.aliases.isEmpty

def names (s : AliasSet K) : List (Name K) := s.aliases.map (·.name)

def find? (s : AliasSet K) (n : Name K) : Option (Alias K) :=
  s.aliases.find? fun a => a.name == n

def contains (s : AliasSet K) (n : Name K) : Bool := (s.find? n).isSome

/-- The selector that `n` abbreviates. -/
def expansion? (s : AliasSet K) (n : Name K) : Option (Selector K) :=
  (s.find? n).bind (·.expansion?)

/-- The name behind `n`: its target if it renames one, itself if it is visible, and
nothing if it is hidden or abbreviates a selector. -/
def behind? (s : AliasSet K) (n : Name K) : Option (Name K) :=
  match s.find? n with
  | some a => if a.isPlain then some n else a.target?
  | none => if (Alias.targets s.aliases).contains n then none else some n

/-- The error of giving parameters to an abbreviation. -/
def takesNone (n : Name K) : PluginError :=
  .invalidParameters n.chars "an alias bound to a selector takes no parameters".toList

/-- The selector in terms of the names behind the aliases. -/
def unalias (s : AliasSet K) (x : Selector K) : Except PluginError (Selector K) :=
  match s.expansion? x.name with
  | some expansion => do
    let parameters ← x.parameters
    if parameters.isEmpty then return expansion else throw (takesNone x.name)
  | none =>
    match s.behind? x.name with
    | some n => .ok (x.rename n)
    | none => .error (.unknownName x.name)

/-! ### Catalogs -/

/-- What is seen of a listing: itself unless it is renamed and not kept visible, and
a listing for each alias that renames it. -/
def visible (s : AliasSet K) (l : Listing K) : List (Listing K) :=
  let renames := s.aliases.filter fun a => a.target? == some l.name
  let kept := (s.find? l.name).any (·.isPlain)
  (if renames.isEmpty ∨ kept then [l] else []) ++
    renames.map fun a => ⟨a.name, a.url?.getD l.url⟩

/-- The listing of an alias that abbreviates a selector, under its own url or that of the
plugin it selects. -/
def expanded? (c : Catalog K) (a : Alias K) : Option (Listing K) :=
  a.expansion?.bind fun x =>
    (a.url?.or ((c.find? x.name).map (·.url))).map fun u => ⟨a.name, u⟩

/-- The catalog as it is seen through the aliases. -/
def apply (s : AliasSet K) (c : Catalog K) : Except PluginError (Catalog K) :=
  if s.isEmpty then .ok c
  else
    match s.aliases.find? fun a => !c.contains a.refersTo with
    | some a => .error (.unknownName a.refersTo)
    | none => Catalog.ofListings (c.listings.flatMap s.visible ++ s.aliases.filterMap (expanded? c))

/-! ### Text -/

def text (s : AliasSet K) : Text := Text.commaJoin (s.aliases.map (·.text))

def ofText (urls : Url.Reader) (t : Text) : Except PluginError (AliasSet K) :=
  if Text.allBlank t then .ok empty
  else do ofAliases (← Catalog.readEntries (Alias.ofText urls) t)

end AliasSet

end PluginForms
