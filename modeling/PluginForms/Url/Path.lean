import PluginForms.Url.Percent
import PluginForms.Url.Scheme

/-!
Hierarchical paths as lists of segments, with the dot segments resolved. A path
that ends with a slash has an empty segment at its end.

A drive is a segment like `C:`. Two dots never lead out of a drive, whatever the
scheme. A file is special in two ways: the drive at the start of its path is
written with a colon, and counts as a host.
-/

namespace PluginForms.Url

/-- Tabs and line breaks, which mean nothing in a url. -/
def isBreak (c : Char) : Bool := "\t\n\x0d".toList.contains c

def unbroken (t : Text) : Text := t.filter (!isBreak ·)

/-- The text before the first `c`, and the text after it if there is one. -/
def cutAt (c : Char) (t : Text) : Text × Option Text :=
  match t.dropWhile (· != c) with
  | [] => (t, none)
  | _ :: rest => (t.takeWhile (· != c), some rest)

def splitAtChar (sep : Char) : Text → List Text
  | [] => [[]]
  | c :: t =>
    if c = sep then [] :: splitAtChar sep t
    else
      match splitAtChar sep t with
      | part :: parts => (c :: part) :: parts
      | [] => [[c]]

def isSingleDot (segment : Text) : Bool :=
  [".", "%2e"].any (·.toList == segment.map Text.lowerAscii)

def isDoubleDot (segment : Text) : Bool :=
  ["..", ".%2e", "%2e.", "%2e%2e"].any (·.toList == segment.map Text.lowerAscii)

/-- A letter and a colon or bar. -/
def isDrive : Text → Bool
  | [c, d] => Text.isAsciiLetter c && (d == ':' || d == '|')
  | _ => false

/-- A drive, with or without a backslash and more after it. -/
def startsWithDrive (segment : Text) : Bool :=
  isDrive (segment.takeWhile (· != '\\'))

/-- A drive with a colon, right after which the line is broken, and what follows it. -/
def brokenDrive? (written : Text) : Option (Text × Text) :=
  match cutAt ':' written with
  | (letter, some rest) =>
    let drive := unbroken letter ++ [':']
    if isDrive drive && rest.head?.any isBreak then some (drive, unbroken rest) else none
  | _ => none

structure Path where
  segments : List Text := []
  /-- It starts with the drive of a file. -/
  drive : Bool := false

namespace Path

/-- One segment less, but a drive stays. -/
def shorten (p : Path) : Path :=
  if p.segments.getLast?.any startsWithDrive then p
  else { p with segments := p.segments.dropLast }

/-- The path with a segment more. A drive that starts a file and is followed by a
broken line ends there, as if a slash came next. -/
def push (k : SchemeClass) (p : Path) (written : Text) : Path :=
  let segment := percentEncode encodesInPath (unbroken written)
  if k ≠ .file ∨ !p.segments.isEmpty then { p with segments := p.segments ++ [segment] }
  else if isDrive segment then ⟨[segment.take 1 ++ [':']], true⟩
  else
    match brokenDrive? written with
    | some (drive, rest) => { p with segments := [drive, percentEncode encodesInPath rest] }
    | none => { p with segments := [segment] }

/-- The path with one more segment as it is written, where `last` says that no slash
comes after it. -/
def follow (k : SchemeClass) (p : Path) (written : Text) (last : Bool) : Path :=
  let closed (p : Path) : Path :=
    if last then { p with segments := p.segments ++ [[]] } else p
  if isDoubleDot (unbroken written) then closed p.shorten
  else if isSingleDot (unbroken written) then closed p
  else p.push k written

def followAll (k : SchemeClass) (p : Path) : List Text → Path
  | [] => p
  | written :: rest => (p.follow k written rest.isEmpty).followAll k rest

/-- The path that `t` spells after a slash. -/
def ofText (k : SchemeClass) (t : Text) : Path :=
  ({} : Path).followAll k (splitAtChar '/' (t.map fun c => if k.isSlash c then '/' else c))

def dropEmptyStart : List Text → List Text
  | [] :: segment :: path => dropEmptyStart (segment :: path)
  | path => path

/-- No file has empty segments at the start of its path. -/
def text (k : SchemeClass) (p : Path) : Text :=
  let segments := if k = .file then dropEmptyStart p.segments else p.segments
  segments.flatMap ('/' :: ·)

end Path

end PluginForms.Url
