import PluginForms.Url.Basic
import PluginForms.Url.Domain

/-!
Host names. Hosts of web and file urls are domains in ASCII, IPv4 or IPv6
addresses in their shortest form; a domain whose last label is a number has to
be an IPv4 address. Hosts of other urls are opaque.
-/

namespace PluginForms.Url

def numberIn (base : Nat) (t : Text) : Option Nat :=
  t.foldl (fun n c => n.bind fun n =>
    match hexValue? c with
    | some d => if d < base then some (base * n + d) else none
    | none => none) (some 0)

/-! ### IPv4 addresses -/

/-- A number in an IPv4 address: hexadecimal after `0x`, octal after `0`. -/
def ipv4Number? : Text → Option Nat
  | [] => none
  | '0' :: 'x' :: t => numberIn 16 t
  | '0' :: 'X' :: t => numberIn 16 t
  | '0' :: c :: t => numberIn 8 (c :: t)
  | t => numberIn 10 t

/-- The labels of a domain, without the empty one after a final dot. -/
def labels (domain : Text) : List Text :=
  let parts := splitAtChar '.' domain
  if 1 < parts.length ∧ parts.getLast? = some [] then parts.dropLast else parts

def endsInNumber (domain : Text) : Bool :=
  match (labels domain).getLast? with
  | none => false
  | some last => (!last.isEmpty && last.all Text.isDigit) || (ipv4Number? last).isSome

/-- The address whose last number fills the bytes that the numbers before it leave. -/
def ipv4? (domain : Text) : Option Nat := do
  let numbers ← (labels domain).mapM ipv4Number?
  let last ← numbers.getLast?
  let first := numbers.dropLast
  if 3 < first.length ∨ first.any (fun n => 255 < n) ∨ Nat.pow 256 (4 - first.length) ≤ last then none
  else some (first.foldl (fun n d => 256 * n + d) 0 * Nat.pow 256 (4 - first.length) + last)

def ipv4Text (address : Nat) : Text :=
  ['.'].intercalate <| [3, 2, 1, 0].map fun i => Text.ofNat (address / Nat.pow 256 i % 256)

/-! ### IPv6 addresses -/

/-- Four decimal bytes, as the last two pieces of an IPv6 address. -/
def dottedPieces? (t : Text) : Option (List Nat) := do
  let bytes ← (splitAtChar '.' t).mapM fun part =>
    if part.isEmpty ∨ 3 < part.length ∨ (1 < part.length ∧ part.head? = some '0') then none
    else numberIn 10 part
  match bytes with
  | [a, b, c, d] =>
    if bytes.all (· < 256) then some [256 * a + b, 256 * c + d] else none
  | _ => none

def piece? (t : Text) : Option Nat :=
  if t.isEmpty ∨ 4 < t.length then none else numberIn 16 t

def pieces? : List Text → Option (List Nat)
  | [] => some []
  | [last] => if last.contains '.' then dottedPieces? last else (piece? last).map ([·])
  | t :: ts => do return (← piece? t) :: (← pieces? ts)

/-- The text before and after the first pair of colons. -/
def splitAtGap : Text → Option (Text × Text)
  | ':' :: ':' :: t => some ([], t)
  | c :: t => (splitAtGap t).map fun (before, after) => (c :: before, after)
  | [] => none

def groups (t : Text) : List Text := if t.isEmpty then [] else splitAtChar ':' t

/-- The eight pieces of an address; a pair of colons stands for the zeros left out. -/
def ipv6? (t : Text) : Option (List Nat) :=
  match splitAtGap t with
  | none => do
    let pieces ← pieces? (groups t)
    if pieces.length = 8 then some pieces else none
  | some (before, after) => do
    if before.contains '.' then none
    else
      let first ← pieces? (groups before)
      let last ← pieces? (groups after)
      let known := first.length + last.length
      if known < 8 then some (first ++ List.replicate (8 - known) 0 ++ last) else none

/-- Where the longest run of zeros starts and its length, the first of the longest. -/
def longestZeros : Nat → List Nat → Nat × Nat
  | _, [] => (0, 0)
  | i, n :: ns =>
    let here := ((n :: ns).takeWhile (· == 0)).length
    let later := longestZeros (i + 1) ns
    if here ≠ 0 ∧ later.2 ≤ here then (i, here) else later

def ipv6Text (pieces : List Nat) : Text :=
  let run := longestZeros 0 pieces
  let hex (ns : List Nat) : Text := [':'].intercalate (ns.map (Nat.toDigits 16))
  if run.2 < 2 then hex pieces
  else hex (pieces.take run.1) ++ [':', ':'] ++ hex (pieces.drop (run.1 + run.2))

/-! ### Hosts -/

/-- What stands between brackets, for a host that starts with one. -/
def bracketed? (host : Text) : Option (Except Fault Text) :=
  match host with
  | '[' :: t =>
    some <|
      match t.getLast? with
      | some ']' => (ipv6? t.dropLast).elim (.error .ipv6) fun pieces =>
          .ok (['['] ++ ipv6Text pieces ++ [']'])
      | _ => .error .ipv6
  | _ => none

def forbiddenInDomain (c : Char) : Bool :=
  c.toNat ≤ 0x20 || c.toNat == 0x7f || "%#/:<>?@[\\]^|".toList.contains c

def forbiddenInOpaque (c : Char) : Bool :=
  "\x00\t\n\x0d #/:<>?@[\\]^|".toList.contains c

/-- The text that the bytes are in UTF-8. -/
def utf8Text? (bytes : List UInt8) : Option Text :=
  (String.fromUTF8? bytes.toByteArray).map String.toList

/-- The host of a web or file url. -/
def domain (host : Text) : Except Fault Text :=
  match bracketed? host with
  | some address => address
  | none =>
    match utf8Text? (percentDecode host) >>= Domain.ascii? with
    | none => .error .domain
    | some name =>
      if name.any forbiddenInDomain then .error .domain
      else if name.isEmpty then .error .emptyHost
      else if endsInNumber name then (ipv4? name).elim (.error .ipv4) (.ok ∘ ipv4Text)
      else .ok name

def opaqueHost (host : Text) : Except Fault Text :=
  match bracketed? host with
  | some address => address
  | none =>
    if host.any forbiddenInOpaque then .error .hostCharacter
    else .ok (percentEncode encodesControls host)

end PluginForms.Url
