import PluginForms.Selector.Expression

/-!
The reader of parameter lists takes one character at a time. Its state says
which lists are open, what has been read of each, and what it is in the middle
of; a character either leads to the next state or cannot follow. So a text can
be continued to an accepted one exactly if no character in it is refused, and
the first refused character is where the error is.

Nothing here knows where in a text the list stands: `readParameters` finds the
position of a refused character from the text that is left.
-/

namespace PluginForms

/-- Why a character, or the end of the text, cannot follow what was read. -/
inductive Refusal
  | character
  | nesting
  | endOfText (expected : Expected)
  | name (error : PluginError)
  deriving DecidableEq

/-- What the reader of an open list is in the middle of. -/
inductive Phase (K : Kind)
  /-- The list was just opened: a parameter or its end. -/
  | opened
  /-- A comma was read: a parameter. -/
  | separated
  | name (chars : Text)
  /-- A name is complete: its own list may still follow. -/
  | named (name : Name K)
  | sign
  | whole (literal : Text)
  | point (literal : Text)
  | fraction (literal : Text)
  | string (chars : Text)
  | escape (chars : Text)
  /-- A parameter is complete: a comma or the end of the list. -/
  | complete

/-- A list that waits for the list of one of its calls: what was read of it, and the
name of that call. -/
structure Frame (K : Kind) where
  items : List (Expression K)
  caller : Name K

inductive ReadState (K : Kind)
  /-- Nothing but white space so far. -/
  | before
  /-- The lists waiting, innermost first, and the items and phase of the innermost one. -/
  | inside (waiting : List (Frame K)) (items : List (Expression K)) (phase : Phase K)
  /-- The outermost list is closed. -/
  | after (items : List (Expression K))

/-- What the character after a backslash stands for. -/
def unescape? : Char → Option Char
  | '"' => some '"'
  | '\\' => some '\\'
  | '\x27' => some '\x27'
  | 'n' => some '\n'
  | 'r' => some '\r'
  | 't' => some '\t'
  | '0' => some '\x00'
  | _ => none

namespace ReadState

variable {K : Kind}

/-- How many lists are open. -/
def depth : ReadState K → Nat
  | inside waiting _ _ => waiting.length + 1
  | _ => 0

def close (items : List (Expression K)) : List (Frame K) → ReadState K
  | [] => after items
  | f :: waiting => inside waiting (f.items ++ [.call f.caller items]) .complete

/-- After a complete parameter. -/
def stepComplete (waiting : List (Frame K)) (items : List (Expression K)) (c : Char) :
    Except Refusal (ReadState K) :=
  if Text.isBlank c then .ok (inside waiting items .complete)
  else if c = ',' then .ok (inside waiting items .separated)
  else if c = ')' then .ok (close items waiting)
  else .error .character

/-- After a complete name, which may yet turn out to have a list of its own. -/
def stepNamed (waiting : List (Frame K)) (items : List (Expression K)) (n : Name K) (c : Char) :
    Except Refusal (ReadState K) :=
  if Text.isBlank c then .ok (inside waiting items (.named n))
  else if c = '(' then
    if waiting.length + 1 < nestingLimit then .ok (inside (⟨items, n⟩ :: waiting) [] .opened)
    else .error .nesting
  else stepComplete waiting (items ++ [.call n []]) c

/-- The first character of a parameter. -/
def stepItem (waiting : List (Frame K)) (items : List (Expression K)) (c : Char) :
    Except Refusal (ReadState K) :=
  if c = '"' then .ok (inside waiting items (.string []))
  else if c = '-' then .ok (inside waiting items .sign)
  else if Text.isDigit c then .ok (inside waiting items (.whole [c]))
  else if isNameInitial c then .ok (inside waiting items (.name [c]))
  else .error .character

def stepInside (waiting : List (Frame K)) (items : List (Expression K)) (c : Char) :
    Phase K → Except Refusal (ReadState K)
  | .opened =>
    if Text.isBlank c then .ok (inside waiting items .opened)
    else if c = ')' then .ok (close items waiting)
    else stepItem waiting items c
  | .separated =>
    if Text.isBlank c then .ok (inside waiting items .separated)
    else stepItem waiting items c
  | .name chars =>
    if isNamePart c then .ok (inside waiting items (.name (chars ++ [c])))
    else
      match Name.ofText chars with
      | .ok n => stepNamed waiting items n c
      | .error e => .error (.name e)
  | .named n => stepNamed waiting items n c
  | .sign =>
    if Text.isDigit c then .ok (inside waiting items (.whole ['-', c]))
    else .error .character
  | .whole literal =>
    if Text.isDigit c then .ok (inside waiting items (.whole (literal ++ [c])))
    else if c = '.' then .ok (inside waiting items (.point (literal ++ [c])))
    else stepComplete waiting (items ++ [.number (.ofLiteral literal)]) c
  | .point literal =>
    if Text.isDigit c then .ok (inside waiting items (.fraction (literal ++ [c])))
    else .error .character
  | .fraction literal =>
    if Text.isDigit c then .ok (inside waiting items (.fraction (literal ++ [c])))
    else stepComplete waiting (items ++ [.number (.ofLiteral literal)]) c
  | .string chars =>
    if c = '"' then .ok (inside waiting (items ++ [.string chars]) .complete)
    else if c = '\\' then .ok (inside waiting items (.escape chars))
    else .ok (inside waiting items (.string (chars ++ [c])))
  | .escape chars =>
    match unescape? c with
    | some d => .ok (inside waiting items (.string (chars ++ [d])))
    | none => .error .character
  | .complete => stepComplete waiting items c

def step (c : Char) : ReadState K → Except Refusal (ReadState K)
  | before =>
    if Text.isBlank c then .ok before
    else if c = '(' then .ok (inside [] [] .opened)
    else .error .character
  | inside waiting items phase => stepInside waiting items c phase
  | after items =>
    if Text.isBlank c then .ok (after items) else .error .character

/-- What was read, if the text may end here. -/
def finish : ReadState K → Except Refusal (List (Expression K))
  | before => .ok []
  | after items => .ok items
  | inside _ _ phase =>
    match phase with
    | .opened | .separated => .error (.endOfText .parameter)
    | .name chars =>
      match (Name.ofText chars : Except PluginError (Name K)) with
      | .ok _ => .error (.endOfText .separator)
      | .error e => .error (.name e)
    | .sign | .point _ => .error (.endOfText .digit)
    | .string _ => .error (.endOfText .closingQuote)
    | .escape _ => .error (.endOfText .escapedCharacter)
    | .named _ | .whole _ | .fraction _ | .complete => .error (.endOfText .separator)

/-- Reads a text to its end. A refusal comes with the text from the refused
character on. -/
def run : ReadState K → Text → Except (Refusal × Text) (ReadState K)
  | s, [] => .ok s
  | s, c :: cs =>
    match s.step c with
    | .ok s' => s'.run cs
    | .error r => .error (r, c :: cs)

@[simp] theorem run_nil (s : ReadState K) : s.run [] = .ok s := rfl

theorem run_append (s : ReadState K) (t u : Text) :
    s.run (t ++ u) =
      match s.run t with
      | .ok s' => s'.run u
      | .error (r, rest) => .error (r, rest ++ u) := by
  induction t generalizing s with
  | nil => rfl
  | cons c t ih =>
    simp only [List.cons_append, run]
    cases s.step c with
    | ok s' => exact ih s'
    | error r => rfl

end ReadState

/-- The error that a refusal is, with `rest` the part of `text` from it on. -/
def Refusal.error (text rest : Text) : Refusal → PluginError
  | .character => .atRest text rest .parameter
  | .nesting => .nestingTooDeep text (text.length - rest.length)
  | .endOfText expected => .endOfText text expected
  | .name e => e

/-- The parameters that the part of `text` from character `start` on stands for. -/
def readParameters {K : Kind} (text : Text) (start : Nat) :
    Except PluginError (List (Expression K)) :=
  match (ReadState.before : ReadState K).run (text.drop start) with
  | .error (r, rest) => .error (r.error text rest)
  | .ok s => s.finish.mapError (·.error text [])

end PluginForms
