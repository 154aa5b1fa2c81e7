import PluginForms.Text.Nesting

/-!
A list of entries is cut at its commas, but not at those in parentheses, string
literals or urls. A url starts at a colon outside of parentheses and lasts to
the next white space; parentheses and quotes mean nothing in it, and a comma
ends its entry only before white space or the end of the text.
-/

namespace PluginForms.Text

/-- Where in an entry the scan is. -/
structure EntryScan where
  nesting : Nesting := .start
  inUrl : Bool := false
  deriving DecidableEq, Repr

namespace EntryScan

def start : EntryScan := {}

/-- The scan is neither in a literal nor in parentheses. -/
def isTop (s : EntryScan) : Bool := s.nesting == .start

def endsUrl (rest : Text) : Bool :=
  match rest with
  | [] => true
  | c :: _ => isBlank c

/-- The comma before `rest` ends an entry. -/
def cuts (s : EntryScan) (rest : Text) : Bool :=
  s.isTop && (!s.inUrl || endsUrl rest)

def step (s : EntryScan) (c : Char) : EntryScan :=
  if s.inUrl then { s with inUrl := !isBlank c }
  else { nesting := s.nesting.step c, inUrl := c == ':' && s.isTop }

/-- The rest of the current entry, and the entries after it. -/
def entries (s : EntryScan) : Text → Text × List Text
  | [] => ([], [])
  | c :: t =>
    if c = ',' ∧ s.cuts t then
      let (entry, later) := start.entries t
      ([], entry :: later)
    else
      let (entry, later) := (s.step c).entries t
      (c :: entry, later)

end EntryScan

/-- Each entry with the position of its first character, for entries that start at
`position` and have one character between them. -/
def withStarts (position : Nat) : List Text → List (Nat × Text)
  | [] => []
  | entry :: later => (position, entry) :: withStarts (position + entry.length + 1) later

def splitEntries (t : Text) : List (Nat × Text) :=
  let (entry, later) := EntryScan.start.entries t
  withStarts 0 (entry :: later)

end PluginForms.Text
