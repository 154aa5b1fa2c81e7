import PluginForms.Text.Basic

/-!
How deep a position is in parentheses, counting only those outside of string
literals. A backslash in a literal takes the next character into the literal.
-/

namespace PluginForms.Text

inductive Quoting
  | outside
  | inside
  | escaped
  deriving DecidableEq, Repr

def Quoting.step : Quoting → Char → Quoting
  | .outside, c => if c = '"' then .inside else .outside
  | .inside, c => if c = '\\' then .escaped else if c = '"' then .outside else .inside
  | .escaped, _ => .inside

structure Nesting where
  depth : Nat := 0
  quoting : Quoting := .outside
  deriving DecidableEq, Repr

namespace Nesting

def start : Nesting := {}

def step (n : Nesting) (c : Char) : Nesting :=
  if n.quoting = .outside then
    if c = '(' then { n with depth := n.depth + 1 }
    else if c = ')' then { n with depth := n.depth - 1 }
    else { n with quoting := n.quoting.step c }
  else { n with quoting := n.quoting.step c }

/-- The nesting after a text. -/
def follow (n : Nesting) (t : Text) : Nesting := t.foldl step n

@[simp] theorem follow_nil (n : Nesting) : n.follow [] = n := rfl

@[simp] theorem follow_cons (n : Nesting) (c : Char) (t : Text) :
    n.follow (c :: t) = (n.step c).follow t := rfl

theorem follow_append (n : Nesting) (t u : Text) : n.follow (t ++ u) = (n.follow t).follow u :=
  List.foldl_append

/-- The text up to the first character after which no parenthesis is open, and what
follows it. -/
def splitBalanced (n : Nesting) : Text → Option (Text × Text)
  | [] => none
  | c :: t =>
    let n := n.step c
    if n.depth = 0 then some ([c], t)
    else (n.splitBalanced t).map fun (list, rest) => (c :: list, rest)

end Nesting

end PluginForms.Text
