import PluginForms.Text.Quoted

/-!
JSON values. Field values of forms are arbitrary JSON, and everything that has a
text form is a JSON string. The members of an object are in the order of their
keys.
-/

namespace PluginForms

inductive Json
  | null
  | bool (value : Bool)
  | integer (value : Int)
  /-- A number with digits after the point: `mantissa` divided by ten to the `places`. -/
  | decimal (mantissa : Int) (places : Nat)
  | string (text : Text)
  | array (items : List Json)
  | object (members : List (Text × Json))

namespace Json

def integerText (n : Int) : Text :=
  (if n < 0 then ['-'] else []) ++ Text.ofNat n.natAbs

def decimalText (mantissa : Int) (places : Nat) : Text :=
  let digits := Text.ofNat mantissa.natAbs
  let digits := List.replicate (places + 1 - digits.length) '0' ++ digits
  let whole := digits.take (digits.length - places)
  (if mantissa < 0 then ['-'] else []) ++ whole ++ ['.'] ++ digits.drop (digits.length - places)

/-- What messages call a value that was not expected. -/
def description : Json → Text
  | null => "null".toList
  | bool b => "boolean \x60".toList ++ (if b then "true" else "false").toList ++ "\x60".toList
  | integer n => "integer \x60".toList ++ integerText n ++ "\x60".toList
  | decimal m p => "floating point \x60".toList ++ decimalText m p ++ "\x60".toList
  | string t => "string ".toList ++ Text.quoted t
  | array _ => "sequence".toList
  | object _ => "map".toList

end Json

end PluginForms
