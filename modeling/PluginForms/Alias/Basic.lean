import PluginForms.Catalog.Listing
import PluginForms.Selector.Basic
import PluginForms.Text.Nesting

/-!
An alias declares a name. A plain one keeps a name visible; the others let it
stand for a selector, possibly under a url of its own. A selector without a list
makes the alias another name of the plugin, a selector with one, even an empty
one, makes it an abbreviation.

Written, the parts stand one after the other with white space between them. The
reader takes the list of the selector as it stands, up to the parenthesis that
closes it.
-/

namespace PluginForms

inductive Alias (K : Kind)
  | plain (name : Name K)
  | standsFor (name : Name K) (selector : Selector K) (url : Option ListedUrl)
  deriving DecidableEq

namespace Alias

variable {K : Kind}

def ofSelector (urls : Url.Reader) (n : Name K) (s : Selector K) (u : Option Url) :
    Except PluginError (Alias K) :=
  match u with
  | none => .ok (.standsFor n s none)
  | some u => do
    return .standsFor n s (some (← (Url.listed urls u).mapError (.invalidUrl u.text)))

def name : Alias K → Name K
  | plain n => n
  | standsFor n _ _ => n

def selector? : Alias K → Option (Selector K)
  | plain _ => none
  | standsFor _ s _ => some s

def url? : Alias K → Option ListedUrl
  | plain _ => none
  | standsFor _ _ u => u

def isPlain : Alias K → Bool
  | plain _ => true
  | standsFor .. => false

/-- The plugin that the alias is another name of. -/
def target? : Alias K → Option (Name K)
  | plain _ => none
  | standsFor _ s _ => if s.hasList then none else some s.name

/-- The selector that the alias abbreviates. -/
def expansion? : Alias K → Option (Selector K)
  | plain _ => none
  | standsFor _ s _ => if s.hasList then some s else none

/-- The plugin that has to exist for the alias to mean something. -/
def refersTo : Alias K → Name K
  | plain n => n
  | standsFor _ s _ => s.name

def text : Alias K → Text
  | plain n => n.chars
  | standsFor n s u =>
    n.chars ++ ' ' :: s.text ++ u.elim [] fun u => ' ' :: u.text

/-! ### Reading

The functions below read a part of `t`, of which `rest` is left, and return what
is left after that part. -/

def readName (t rest : Text) : Except PluginError (Name K × Text) :=
  match rest.takeWhile isNamePart with
  | [] => .error (.atRest t rest .alias)
  | chars => do
    let n ← (Name.ofText chars).mapError (·.within t (t.length - rest.length))
    return (n, rest.dropWhile isNamePart)

/-- The text before `rest` is a part of its own: white space follows, or nothing. -/
def endPart (t rest : Text) : Except PluginError Unit :=
  match rest with
  | [] => .ok ()
  | c :: _ => if Text.isBlank c then .ok () else .error (.atRest t rest .alias)

def readSelector (t rest : Text) : Except PluginError (Selector K × Text) := do
  let (n, after) ← readName (K := K) t rest
  let gap := after.takeWhile Text.isBlank
  let (list, after) ←
    match after.dropWhile Text.isBlank with
    | '(' :: body =>
      match Text.Nesting.start.splitBalanced ('(' :: body) with
      | some (list, after) => pure (gap ++ list, after)
      | none => throw (.endOfText t .closingParenthesis)
    | _ => pure ([], after)
  let s ← (Selector.ofText (n.chars ++ list)).mapError (·.within t (t.length - rest.length))
  return (s, after)

def readUrl (urls : Url.Reader) (rest : Text) : Except PluginError (Option ListedUrl × Text) :=
  match rest with
  | [] => .ok (none, [])
  | _ => do
    let u ← Url.readListed urls (rest.takeWhile (!Text.isBlank ·))
    return (some u, rest.dropWhile (!Text.isBlank ·))

def ofText (urls : Url.Reader) (t : Text) : Except PluginError (Alias K) := do
  let (n, rest) ← readName t (Text.trimStart t)
  endPart t rest
  match Text.trimStart rest with
  | [] => return .plain n
  | rest =>
    let (s, rest) ← readSelector t rest
    endPart t rest
    let (u, rest) ← readUrl urls (Text.trimStart rest)
    match Text.trimStart rest with
    | [] => return .standsFor n s u
    | rest => throw (.atRest t rest .alias)

end Alias

end PluginForms
