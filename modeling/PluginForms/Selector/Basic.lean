import PluginForms.Selector.Reading

/-!
A selector is the text by which a plugin is asked for: a name, then the text of
a parameter list, kept as it was written. The list may be left out, and white
space may stand before it; what is inside it is only read when it is needed.
-/

namespace PluginForms

/-- After white space the text ends or opens a list. -/
def opensList (t : Text) : Bool :=
  match Text.trimStart t with
  | [] => true
  | c :: _ => c == '('

structure Selector (K : Kind) where
  name : Name K
  list : Text
  opens : opensList list = true
  deriving DecidableEq

namespace Selector

variable {K : Kind}

/-- The selector of a plugin without parameters. -/
def bare (n : Name K) : Selector K := ⟨n, [], rfl⟩

def text (s : Selector K) : Text := s.name.chars ++ s.list

def withList (n : Name K) (list : Text) : Except PluginError (Selector K) :=
  if h : opensList list = true then .ok ⟨n, list, h⟩
  else .error (.atRest (n.chars ++ list) (Text.trimStart list) .parameter)

/-- The name goes as far as the characters of `t` can be part of one. -/
def ofText (t : Text) : Except PluginError (Selector K) := do
  withList (← Name.ofText (t.takeWhile isNamePart)) (t.dropWhile isNamePart)

def rename (s : Selector K) (n : Name K) : Selector K := { s with name := n }

/-- The list holds more than white space, so it has parentheses at least. -/
def hasList (s : Selector K) : Bool := !Text.allBlank s.list

def parameters (s : Selector K) : Except PluginError (List (Expression K)) :=
  readParameters s.text s.name.chars.length

/-- The selector as a call. -/
def expression (s : Selector K) : Except PluginError (Expression K) := do
  return .call s.name (← s.parameters)

@[simp] theorem withList_list (s : Selector K) : withList s.name s.list = .ok s := by
  simp [withList, s.opens]

end Selector

end PluginForms
