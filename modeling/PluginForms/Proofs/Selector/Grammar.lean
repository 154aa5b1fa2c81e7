import PluginForms.Selector.Expression

/-!
The grammar of what follows the name of a selector:

    parameters = ws* ( list ws* )?
    list       = "(" ws* ( parameter ( ws* "," ws* parameter )* ws* )? ")"
    parameter  = name ( ws* list )? | number | string
    number     = "-"? digit+ ( "." digit+ )?
    string     = '"' ( escape | any character but '"' and "\" )* '"'
    escape     = "\" ( '"' | "\" | "'" | "n" | "r" | "t" | "0" )

White space before a closing parenthesis belongs to what stands before it, so that of an
empty list is derived in one way only. A name has the length that names may have.

A derivation is a tree that keeps every character it was made from, white space
included: `text` is what it derives and `trees` is what that text stands for.
The rules for repetition are written out by their first element, so that a tree
is taken apart in the order in which its text is read.
-/

namespace PluginForms.Grammar

/-- White space, possibly none. -/
structure Blanks where
  text : Text
  blank : text.all Text.isBlank = true

namespace Blanks

def nil : Blanks := ⟨[], rfl⟩

def cons (c : Char) (h : Text.isBlank c = true) (gap : Blanks) : Blanks :=
  ⟨c :: gap.text, by rw [List.all_cons, h, gap.blank]; rfl⟩

@[simp] theorem text_nil : nil.text = [] := rfl

@[simp] theorem text_cons (c : Char) (h : Text.isBlank c = true) (gap : Blanks) :
    (cons c h gap).text = c :: gap.text := rfl

/-- White space before a text is used up one character at a time. -/
theorem append_eq_cons {gap : Blanks} {c : Char} {t u : Text} (h : gap.text ++ u = c :: t) :
    (gap = nil ∧ u = c :: t) ∨
      ∃ (hc : Text.isBlank c = true) (gap' : Blanks), gap = cons c hc gap' ∧ gap'.text ++ u = t := by
  obtain ⟨text, blank⟩ := gap
  cases text with
  | nil => exact .inl ⟨rfl, h⟩
  | cons b text =>
      rw [List.all_cons, Bool.and_eq_true] at blank
      obtain ⟨rfl, htail⟩ := List.cons.inj h
      exact .inr ⟨blank.1, ⟨text, blank.2⟩, rfl, htail⟩

end Blanks

/-- At least one digit. -/
structure Digits where
  text : Text
  digits : text.all Text.isDigit = true
  nonempty : text ≠ []

/-- The digits after a point, with the point. -/
def Digits.fraction : Option Digits → Text
  | none => []
  | some d => '.' :: d.text

structure Number where
  negative : Bool
  whole : Digits
  fraction : Option Digits

namespace Number

def sign (negative : Bool) : Text := if negative then ['-'] else []

def text (n : Number) : Text := sign n.negative ++ (n.whole.text ++ Digits.fraction n.fraction)

end Number

/-- The characters that may follow a backslash. -/
inductive Escape
  | quote
  | backslash
  | apostrophe
  | newline
  | carriageReturn
  | tab
  | null

namespace Escape

/-- How the escape is written, after the backslash. -/
def mark : Escape → Char
  | quote => '"'
  | backslash => '\\'
  | apostrophe => '\x27'
  | newline => 'n'
  | carriageReturn => 'r'
  | tab => 't'
  | null => '0'

/-- The character that the escape stands for. -/
def value : Escape → Char
  | quote => '"'
  | backslash => '\\'
  | apostrophe => '\x27'
  | newline => '\n'
  | carriageReturn => '\r'
  | tab => '\t'
  | null => '\x00'

end Escape

/-- One character of a string. -/
inductive Piece
  | raw (c : Char) (plain : c ≠ '"' ∧ c ≠ '\\')
  | escape (e : Escape)

namespace Piece

def text : Piece → Text
  | raw c _ => [c]
  | escape e => ['\\', e.mark]

def value : Piece → Char
  | raw c _ => c
  | escape e => e.value

end Piece

mutual

inductive Parameter (K : Kind)
  | number (n : Number)
  | string (pieces : List Piece)
  | bare (name : Name K)
  | call (name : Name K) (gap : Blanks) (l : ParameterList K)

inductive ParameterList (K : Kind)
  | empty (gap : Blanks)
  | items (gap : Blanks) (first : Parameter K) (rest : ListRest K)

/-- What follows a parameter to the end of its list. -/
inductive ListRest (K : Kind)
  | done (gap : Blanks)
  | more (gap gap' : Blanks) (next : Parameter K) (rest : ListRest K)

end

inductive Parameters (K : Kind)
  | none (gap : Blanks)
  | list (gap : Blanks) (l : ParameterList K) (gap' : Blanks)

variable {K : Kind}

/-! ### The text that is derived

`inner` is the text of a list after its opening parenthesis, the closing one included. -/

mutual

def Parameter.text : Parameter K → Text
  | .number n => n.text
  | .string pieces => '"' :: (pieces.flatMap Piece.text ++ ['"'])
  | .bare n => n.chars
  | .call n gap l => n.chars ++ (gap.text ++ '(' :: l.inner)

def ParameterList.inner : ParameterList K → Text
  | .empty gap => gap.text ++ [')']
  | .items gap first rest => gap.text ++ (first.text ++ rest.text)

def ListRest.text : ListRest K → Text
  | .done gap => gap.text ++ [')']
  | .more gap gap' next rest => gap.text ++ ',' :: (gap'.text ++ (next.text ++ rest.text))

end

def Parameters.text : Parameters K → Text
  | .none gap => gap.text
  | .list gap l gap' => gap.text ++ '(' :: (l.inner ++ gap'.text)

/-! ### What the text stands for -/

mutual

def Parameter.tree : Parameter K → Expression K
  | .number n => .number (.ofLiteral n.text)
  | .string pieces => .string (pieces.map Piece.value)
  | .bare n => .call n []
  | .call n _ l => .call n l.trees

def ParameterList.trees : ParameterList K → List (Expression K)
  | .empty _ => []
  | .items _ first rest => first.tree :: rest.trees

def ListRest.trees : ListRest K → List (Expression K)
  | .done _ => []
  | .more _ _ next rest => next.tree :: rest.trees

end

def Parameters.trees : Parameters K → List (Expression K)
  | .none _ => []
  | .list _ l _ => l.trees

/-! ### How deep lists nest -/

mutual

def Parameter.depth : Parameter K → Nat
  | .number _ => 0
  | .string _ => 0
  | .bare _ => 0
  | .call _ _ l => l.depth

def ParameterList.depth : ParameterList K → Nat
  | .empty _ => 1
  | .items _ first rest => max (first.depth + 1) rest.depth

/-- The list that the rest belongs to counts. -/
def ListRest.depth : ListRest K → Nat
  | .done _ => 1
  | .more _ _ next rest => max (next.depth + 1) rest.depth

end

def Parameters.depth : Parameters K → Nat
  | .none _ => 0
  | .list _ l _ => l.depth

theorem ListRest.depth_pos (r : ListRest K) : 0 < r.depth := by
  cases r with
  | done gap => exact Nat.one_pos
  | more gap gap' next rest =>
      rw [ListRest.depth]
      omega

theorem ParameterList.depth_pos (l : ParameterList K) : 0 < l.depth := by
  cases l with
  | empty gap => exact Nat.one_pos
  | items gap first rest =>
      rw [ParameterList.depth]
      omega

/-- `t` derives the trees `es` with no more than `limit` lists open at once. -/
def Derives (limit : Nat) (t : Text) (es : List (Expression K)) : Prop :=
  ∃ d : Parameters K, d.text = t ∧ d.trees = es ∧ d.depth ≤ limit

end PluginForms.Grammar
