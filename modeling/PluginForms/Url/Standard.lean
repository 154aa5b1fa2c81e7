import PluginForms.Url.Host

/-!
The reader of urls that the library is used with. It takes a text apart into
scheme, authority, path, query and fragment, brings each part into its canonical
form and puts them together again. The path of a web or file url, and any path
that starts with a slash, is hierarchical; others are opaque.
-/

namespace PluginForms.Url

/-! ### Authority -/

/-- The text before the last `@`, and the text after it. -/
def splitCredentials (t : Text) : Option Text × Text :=
  let after := t.reverse.takeWhile (· != '@')
  if t.contains '@' then
    (some (t.take (t.length - after.length - 1)), after.reverse)
  else (none, t)

def credentialsText (t : Text) : Text :=
  let (user, password) := cutAt ':' t
  let password := password.getD []
  if user.isEmpty ∧ password.isEmpty then []
  else
    percentEncode encodesInCredentials user ++
      (if password.isEmpty then [] else ':' :: percentEncode encodesInCredentials password) ++ ['@']

/-- The host, and what follows it from the first colon on. Colons between brackets
belong to the host. -/
def splitHost : Bool → Text → Text × Text
  | _, [] => ([], [])
  | bracket, c :: t =>
    if c = ':' ∧ !bracket then ([], c :: t)
    else
      let bracket := if c = '[' then true else if c = ']' then false else bracket
      let (host, rest) := splitHost bracket t
      (c :: host, rest)

/-- What has to be written after the host for the number given there: nothing for
the number that the scheme implies. -/
def portNumberText (scheme digits : Text) : Except Fault Text :=
  if !digits.all Text.isDigit then .error .portNumber
  else
    match numberIn 10 digits with
    | some n =>
      if 65535 < n then .error .portNumber
      else if digits.isEmpty ∨ impliedNumber? scheme = some n then .ok []
      else .ok (':' :: Text.ofNat n)
    | none => .error .portNumber

/-- What follows a host: the number after its colon in the form in which it is written,
and what comes after the number. A backslash ends the number in any url. -/
def readPortNumber (scheme : Text) : Text → Except Fault (Text × Text)
  | ':' :: t => do
    return (← portNumberText scheme (t.takeWhile (· != '\\')), t.dropWhile (· != '\\'))
  | t => .ok ([], t)

/-- The canonical form of what stands between two slashes and the path, and the rest
of it that belongs to the path. -/
def authority (scheme : Text) (k : SchemeClass) (t : Text) (more : Bool) :
    Except Fault (Text × Text) := do
  let (credentials, hostPort) := splitCredentials t
  if credentials = some [] ∧ hostPort.isEmpty ∧ more then throw .emptyHost
  let credentials := credentialsText (credentials.getD [])
  let (host, number) := splitHost false hostPort
  if host.isEmpty ∧ (k = .web ∨ !number.isEmpty ∨ !credentials.isEmpty) then throw .emptyHost
  let host ← if k = .web then domain host else opaqueHost host
  let (number, rest) ← readPortNumber scheme number
  return (credentials ++ host ++ number, rest)

/-! ### The whole -/

/-- The text without white space and control characters at its ends. -/
def trimmed (t : Text) : Text :=
  let isEdge (c : Char) : Bool := c.toNat ≤ 0x20
  ((t.dropWhile isEdge).reverse.dropWhile isEdge).reverse

def dropSlash (k : SchemeClass) (t : Text) : Text :=
  match t.dropWhile isBreak with
  | [] => []
  | c :: rest => if k.isSlash c then rest else c :: rest

/-- The host and the path of a file, from the two slashes before the host on. A drive in
the place of the host starts the path. The path keeps its slash unless a host is written,
and that is `localhost` for no host. -/
def fileText (t : Text) : Except Fault Text := do
  let notSlash (c : Char) : Bool := !SchemeClass.file.isSlash c
  let written := unbroken (t.takeWhile notSlash)
  if isDrive written then return (Path.ofText .file t).text .file
  let rest := t.dropWhile notSlash
  let host ← if written.isEmpty then pure [] else domain written
  if host.isEmpty ∨ host = "localhost".toList then return (Path.ofText .file rest).text .file
  let path := Path.ofText .file (dropSlash .file rest)
  return (if path.drive then [] else host) ++ path.text .file

/-- What is written after the scheme and its colon, up to the query. -/
def hierarchy (scheme : Text) (k : SchemeClass) (t : Text) (more : Bool) : Except Fault Text :=
  let notSlash (c : Char) : Bool := !k.isSlash c
  match k with
  | .web => do
    let t := (unbroken t).dropWhile k.isSlash
    let path := t.dropWhile notSlash
    let (host, _) ← authority scheme k (t.takeWhile notSlash) (more || !path.isEmpty)
    return "//".toList ++ host ++ (Path.ofText k (dropSlash k path)).text k
  | .file => do
    let body ←
      if 2 ≤ ((unbroken t).takeWhile k.isSlash).length then fileText (dropSlash k (dropSlash k t))
      else pure ((Path.ofText k (dropSlash k t)).text k)
    return "//".toList ++ body
  | .other =>
    match unbroken t with
    | '/' :: '/' :: t => do
      let path := t.dropWhile notSlash
      let (host, rest) ← authority scheme k (t.takeWhile notSlash) (more || !path.isEmpty)
      let path := rest ++ path
      return "//".toList ++ host ++
        if path.isEmpty then [] else (Path.ofText k (dropSlash k path)).text k
    | '/' :: t =>
      let path := (Path.ofText k t).text k
      .ok ((if "//".toList.isPrefixOf path then "/.".toList else []) ++ path)
    | t => .ok (percentEncode encodesControls t)

/-- Reads a url that stands for itself, without a base url. -/
def standard : Reader := fun t => do
  let (written, rest) := cutAt ':' (trimmed t)
  match scheme? (unbroken written), rest with
  | some scheme, some rest =>
    let k := SchemeClass.of scheme
    let (rest, fragment) := cutAt '#' rest
    let (rest, query) := cutAt '?' rest
    let body ← hierarchy scheme k rest (query.isSome || fragment.isSome)
    let inQuery := if k = .other then encodesInQuery else encodesInWebQuery
    return ⟨scheme ++ [':'] ++ body ++
      (query.elim [] fun q => '?' :: percentEncode inQuery (unbroken q)) ++
      (fragment.elim [] fun f => '#' :: percentEncode encodesInFragment (unbroken f))⟩
  | _, _ => throw .noScheme

end PluginForms.Url
