import PluginForms.Proofs.Number.Decimal
import PluginForms.Proofs.Scan.Basic
import PluginForms.Selector.Reading

/-!
The scanner of parameter lists: one function for each rule of their grammar, calling each other
as the rules do, with a cursor and a count of the open lists between them.
-/

namespace PluginForms.Scan

variable {K : Kind} {α : Type}

/-- Complains about the character at the position. -/
def refuseAt (t : Text) (position : Nat) : Scan α :=
  match t[position]? with
  | some c => refuse (.invalidCharacter t c position)
  | none => throw (.fallback (.endOfText t "more text".toList))

def expect (t : Text) (wanted : Char) (expected : Text) : Scan Unit := do
  match ← peek t with
  | some c => if c = wanted then forward else refuseAt t (← position)
  | none => throw (.fallback (.endOfText t expected))

def expectInitial (t : Text) : Scan Unit := do
  match ← peek t with
  | some c => if isNameInitial c then forward else refuseAt t (← position)
  | none => throw (.fallback (.endOfText t "name".toList))

def digits (t : Text) : Scan Unit := do
  match ← peek t with
  | some c => if Text.isDigit c then skipWhile t Text.isDigit else refuseAt t (← position)
  | none => refuse (.endOfText t .digit)

def sign (t : Text) : Scan Unit := do
  if (← peek t) = some '-' then forward

def fraction (t : Text) : Scan Unit := do
  if (← peek t) = some '.' then
    forward
    digits t

def number (t : Text) : Scan (Expression K) := do
  let start ← position
  sign t
  digits t
  fraction t
  let literal ← slice t start
  match Binary64.ofText? literal with
  | some x => return .number x
  | none => throw (.fallback (.number literal start))

def advance (t : Text) : Scan (Option Char) := do
  match ← peek t with
  | some c =>
    forward
    return some c
  | none => return none

/-- The character that an escape stands for, from behind its backslash. -/
def escaped (t : Text) : Scan Char := do
  match ← advance t with
  | some c =>
    match unescape? c with
    | some d => return d
    | none => refuseAt t (← less (← position))
  | none => refuse (.endOfText t .escapedCharacter)

/-- One character of a string literal or the quote that ends it; `chars` is what was read of the
literal before. -/
def stringRound (t chars : Text) : Scan (Text ⊕ Text) := do
  match ← advance t with
  | some c =>
    if c = '"' then return .inr chars
    else if c = '\\' then return .inl (chars ++ [← escaped t])
    else return .inl (chars ++ [c])
  | none => refuse (.endOfText t .closingQuote)

def string (t : Text) : Scan (Expression K) := do
  expect t '"' "'\"'".toList
  return .string (← loop t (stringRound t) [])

/-- The name of a call. -/
def callee (t : Text) : Scan (Name K) := do
  let start ← position
  expectInitial t
  skipWhile t isNamePart
  ofExcept ((Name.ofText (← slice t start)).mapError (·.within t start))

/-! ### Lists

A list holds calls and a call has a list. `inner` is what reads the lists of the calls. -/

section

variable (inner : Scan (List (Expression K))) (t : Text)

/-- The list of a call, if one follows. Where none does, the white space after the name is left to
the list that the call is in. -/
def arguments : Scan (List (Expression K)) := do
  let after ← position
  skipWhile t Text.isBlank
  if (← peek t) = some '(' then
    forward
    inner
  else
    goTo after
    return []

def call : Scan (Expression K) := do
  let n ← callee t
  return .call n (← arguments inner t)

def parameter : Scan (Expression K) := do
  match ← peek t with
  | some c =>
    if c = '"' then string t
    else if c = '-' ∨ Text.isDigit c = true then number t
    else if isNameInitial c then call inner t
    else refuseAt t (← position)
  | none => refuse (.endOfText t .parameter)

/-- A parameter, and the comma or the parenthesis after it; `es` is what the list holds before. -/
def itemRound (es : List (Expression K)) :
    Scan (List (Expression K) ⊕ List (Expression K)) := do
  skipWhile t Text.isBlank
  let e ← parameter inner t
  skipWhile t Text.isBlank
  match ← peek t with
  | some c =>
    if c = ',' then
      forward
      return .inl (es ++ [e])
    else if c = ')' then
      forward
      return .inr (es ++ [e])
    else refuseAt t (← position)
  | none => refuse (.endOfText t .separator)

def items : Scan (List (Expression K)) := do
  skipWhile t Text.isBlank
  if (← peek t) = some ')' then
    forward
    return []
  else loop t (itemRound inner t) []

end

/-- A list, from behind the parenthesis that opens it. Lists are entered within each other
`levels` times at most. -/
def list (t : Text) : (levels : Nat) → Scan (List (Expression K))
  | 0 => throw .endless
  | levels + 1 => do
    let c ← cursor
    if c.depth = nestingLimit then
      refuse (.nestingTooDeep t (← less c.position))
    else
      moveTo { c with depth := c.depth + 1 }
      let es ← items (list t levels) t
      let c ← cursor
      moveTo { c with depth := ← less c.depth }
      return es

/-- All of what follows the name of a selector. One level more than may be open is enough, since
the list that is one too many is refused before anything is read of it. -/
def parameters (t : Text) : Scan (List (Expression K)) := do
  skipWhile t Text.isBlank
  if (← peek t) = none then return []
  else
    expect t '(' "'('".toList
    let es ← list t (nestingLimit + 1)
    skipWhile t Text.isBlank
    if (← peek t) = none then return es
    else refuseAt t (← position)

end PluginForms.Scan
