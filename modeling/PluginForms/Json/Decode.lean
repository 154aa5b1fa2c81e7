import PluginForms.Json.Basic

/-!
Reading records from JSON. A record is an object, whose members are read in the
order of their keys, or an array of its fields in the order of their declaration.
In an object other members are ignored, and fields that are missing are found
out after the members were read. In an array only fields at the end that have a
default can be missing.

What a member's own reader objects to is a value of `ρ`.
-/

namespace PluginForms.Json

/-- The shape that a value should have. -/
inductive Shape
  | string
  | sequence
  | record (name : Text) (fields : Nat)
  deriving DecidableEq

def Shape.text : Shape → Text
  | .string => "a string".toList
  | .sequence => "a sequence".toList
  | .record name _ => "struct ".toList ++ name

inductive DecodeError (ρ : Type)
  | type (found : Json) (expected : Shape)
  | missing (field : Text)
  | tooShort (length : Nat) (record : Shape)
  | tooLong (length : Nat)
  | rejected (reason : ρ)

def Shape.arrayText : Shape → Text
  | .record name fields =>
    "struct ".toList ++ name ++ " with ".toList ++ Text.ofNat fields ++ " elements".toList
  | shape => shape.text

namespace DecodeError

variable {ρ σ : Type}

def message (reason : ρ → Text) : DecodeError ρ → Text
  | type found expected =>
    "invalid type: ".toList ++ found.description ++ ", expected ".toList ++ expected.text
  | missing field => "missing field \x60".toList ++ field ++ "\x60".toList
  | tooShort length record =>
    "invalid length ".toList ++ Text.ofNat length ++ ", expected ".toList ++ record.arrayText
  | tooLong length =>
    "invalid length ".toList ++ Text.ofNat length ++ ", expected fewer elements in array".toList
  | rejected r => reason r

def map (f : ρ → σ) : DecodeError ρ → DecodeError σ
  | type found expected => type found expected
  | missing field => missing field
  | tooShort length record => tooShort length record
  | tooLong length => tooLong length
  | rejected r => rejected (f r)

end DecodeError

abbrev Decoder (ρ α : Type) := Json → Except (DecodeError ρ) α

variable {ρ σ α : Type}

def text : Decoder ρ Text
  | string t => .ok t
  | j => .error (.type j .string)

/-- A string that `read` accepts. -/
def textAs (read : Text → Except ρ α) : Decoder ρ α := fun j => do
  (read (← text j)).mapError .rejected

def listOf (decode : Decoder ρ α) : Decoder ρ (List α)
  | array items => items.mapM decode
  | j => .error (.type j .sequence)

/-- Nothing for `null`. -/
def optional (decode : Decoder ρ α) : Decoder ρ (Option α)
  | null => .ok none
  | j => some <$> decode j

def Decoder.mapReason (decode : Decoder ρ α) (f : ρ → σ) : Decoder σ α := fun j =>
  (decode j).mapError (·.map f)

/-! ### Records -/

/-- The member `key`, if the object has it. -/
def member (members : List (Text × Json)) (key : String) (decode : Decoder ρ α) :
    Except (DecodeError ρ) (Option α) :=
  match members.lookup key.toList with
  | some j => some <$> decode j
  | none => .ok none

def require (key : String) (value : Option α) : Except (DecodeError ρ) α :=
  match value with
  | some a => .ok a
  | none => .error (.missing key.toList)

/-- The element at `i`, for a field that has no default. -/
def element (record : Shape) (items : List Json) (i : Nat) (decode : Decoder ρ α) :
    Except (DecodeError ρ) α :=
  match items[i]? with
  | some j => decode j
  | none => .error (.tooShort i record)

/-- The element at `i`, for a field that has a default. -/
def elementOr (default : α) (items : List Json) (i : Nat) (decode : Decoder ρ α) :
    Except (DecodeError ρ) α :=
  match items[i]? with
  | some j => decode j
  | none => .ok default

def atMost (n : Nat) (items : List Json) : Except (DecodeError ρ) Unit :=
  if items.length ≤ n then .ok () else .error (.tooLong items.length)

/-- The object with those members that have a value. -/
def ofMembers (members : List (String × Option Json)) : Json :=
  .object (members.filterMap fun (key, value) => value.map fun j => (key.toList, j))

end PluginForms.Json
