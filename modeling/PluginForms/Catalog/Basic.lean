import PluginForms.Catalog.Listing
import PluginForms.Text.Entries
import PluginForms.Text.Sorted

/-!
A catalog lists plugins in the order of their names, each name once. Several
listings may have the same url. Operations that could bring two listings under
one name fail instead and say which names those are.
-/

namespace PluginForms

/-- The names, as a clash of names of the kind `K`. -/
def duplicateNames (K : Kind) (names : List Text) : PluginError :=
  .clash (.duplicate K.label (Sorted.texts names))

def Listing.key {K : Kind} (l : Listing K) : Text := l.name.chars

structure Catalog (K : Kind) where
  listings : List (Listing K)
  increasing : Sorted.Increasing Listing.key listings

instance {K : Kind} : DecidableEq (Catalog K) := fun a b =>
  decidable_of_iff (a.listings = b.listings) (by cases a; cases b; simp)

namespace Catalog

variable {K : Kind}

def empty : Catalog K := ⟨[], .nil⟩

def ofListings (ls : List (Listing K)) : Except PluginError (Catalog K) :=
  match Sorted.repeated Listing.key ls with
  | [] => .ok ⟨Sorted.ofList Listing.key ls, Sorted.increasing_ofList _ ls⟩
  | names => .error (duplicateNames K names)

def size (s : Catalog K) : Nat := s.listings.length

def names (s : Catalog K) : List (Name K) := s.listings.map (·.name)

def find? (s : Catalog K) (n : Name K) : Option (Listing K) :=
  s.listings.find? fun l => l.name == n

def contains (s : Catalog K) (n : Name K) : Bool := (s.find? n).isSome

/-- The first listing with a url. -/
def withUrl? (s : Catalog K) (u : ListedUrl) : Option (Listing K) :=
  s.listings.find? fun l => l.url == u

/-- The first listing with the url `u`, whose commas are encoded for the search. -/
def byUrl? (urls : Url.Reader) (s : Catalog K) (u : Url) : Option (Listing K) :=
  match Url.listed urls u with
  | .ok v => s.withUrl? v
  | .error _ => none

/-- The listings of both. A name in both must have the same url in both. -/
def union (a b : Catalog K) : Except PluginError (Catalog K) :=
  let differs (l : Listing K) : Bool := (a.find? l.name).any fun k => k.url != l.url
  match b.listings.filter differs with
  | [] =>
    let all := a.listings ++ b.listings.filter fun l => !a.contains l.name
    .ok ⟨Sorted.ofList Listing.key all, Sorted.increasing_ofList _ all⟩
  | ls => .error (duplicateNames K (ls.map (·.name.chars)))

def filter (s : Catalog K) (p : Listing K → Bool) : Catalog K :=
  ⟨s.listings.filter p, s.increasing.filter p⟩

def rename (s : Catalog K) (f : Name K → Name K) : Except PluginError (Catalog K) :=
  ofListings (s.listings.map fun l => l.rename (f l.name))

def erase (s : Catalog K) (n : Name K) : Catalog K := s.filter fun l => l.name != n

def text (s : Catalog K) : Text := Text.commaJoin (s.listings.map (·.text))

/-- Reads each entry of a list. An error speaks of the whole list. -/
def readEntries {α : Type} (read : Text → Except PluginError α) (t : Text) :
    Except PluginError (List α) :=
  (Text.splitEntries t).mapM fun (start, entry) => (read entry).mapError (·.within t start)

def ofText (urls : Url.Reader) (t : Text) : Except PluginError (Catalog K) :=
  if Text.allBlank t then .ok empty
  else do ofListings (← readEntries (Listing.ofText urls) t)

end Catalog

end PluginForms
