import IngestViewer.Url

namespace IngestViewer.Url

open PercentEncoding

/-- The scheme and what follows its colon. -/
def readScheme (cs : List Char) : Option (String × List Char) :=
  match cutFirst ':' cs with
  | some (c :: name, rest) =>
    if c.isAlpha && name.all fun d => d.isAlphanum || d == '+' || d == '-' || d == '.' then
      some (String.ofList ((c :: name).map Char.toLower), rest)
    else none
  | _ => none

/-- Whether a character ends the authority. -/
def endsAuthority (special : Bool) (c : Char) : Bool :=
  c == '/' || c == '?' || c == '#' || (special && c == '\\')

/-- The written form of a user name and a password. Empty ones are left out. -/
def credentialsText (cs : List Char) : Option String :=
  let (user, password) := (cutFirst ':' cs).getD (cs, [])
  let user := encode inCredentials user
  let password := encode inCredentials password
  if user.isEmpty && password.isEmpty then none
  else some (String.ofList (user ++ if password.isEmpty then [] else ':' :: password))

/-- Divides an authority into the host and what follows its colon. Colons between brackets belong to
the host. -/
def cutPortNumber (inBrackets : Bool) : List Char → List Char × Option (List Char)
  | [] => ([], none)
  | c :: cs =>
    if c == ':' && !inBrackets then ([], some cs)
    else
      let inBrackets := if c == '[' then true else if c == ']' then false else inBrackets
      let (host, portNumber) := cutPortNumber inBrackets cs
      (c :: host, portNumber)

/-- Reads a port number. The one that the scheme has anyway counts as none. -/
def readPortNumber (scheme : String) (ds : List Char) : Except UrlFault (Option Nat) :=
  let n := Nat.ofDigitChars 10 ds 0
  if !ds.all Char.isDigit || 65535 < n then .error .invalidPort
  else if ds.isEmpty || defaultPortNumber? scheme = some n then .ok none
  else .ok (some n)

structure Authority where
  credentials : Option String
  host : String
  portNumber : Option Nat

/-- Reads an authority. A host can be empty only where no port number and no credentials need one. A
backslash behind a port number and what follows it are left over, and so is what comes `after`. -/
def readAuthority (scheme : String) (special : Bool) (cs after : List Char) :
    Except UrlFault (Authority × List Char) := do
  let (credentials, rest) :=
    match cutLast '@' cs with
    | some (before, rest) => (credentialsText before, rest)
    | none => (none, cs)
  let (host, portNumber) := cutPortNumber false rest
  if host.isEmpty && (special || portNumber.isSome || credentials.isSome ||
      (cs == ['@'] && !after.isEmpty)) then
    throw .emptyHost
  let host ← if special then Host.ofSpecial host else Host.ofOpaque host
  let (ds, left) := ((portNumber.getD []).takeWhile (· != '\\'),
    (portNumber.getD []).dropWhile (· != '\\'))
  let portNumber ← if portNumber.isSome then readPortNumber scheme ds else .ok none
  return (⟨credentials, String.ofList host, portNumber⟩, left ++ after)

/-- Whether a segment means to stay. -/
def isDot (s : String) : Bool :=
  s.toLower == "." || s.toLower == "%2e"

/-- Whether a segment means to go back. -/
def isDoubleDot (s : String) : Bool :=
  s.toLower ∈ ["..", "%2e.", ".%2e", "%2e%2e"]

/-- Goes along segments that are still to be read; `enter` puts one behind those that are done. Dots
at the end leave an empty segment. -/
def walkSegments (enter : List String → String → List String) (done : List String) :
    List String → List String
  | [] => done
  | s :: rest =>
    let ending := if rest.isEmpty then [""] else []
    if isDoubleDot s then walkSegments enter (goBack done ++ ending) rest
    else if isDot s then walkSegments enter (done ++ ending) rest
    else walkSegments enter (enter done s) rest

/-- The segments that a text has between its slashes. -/
def cutSegments (special : Bool) (cs : List Char) : List String :=
  let cs := if special then cs.map fun c => if c == '\\' then '/' else c else cs
  (segments '/' cs).map fun s => String.ofList (encode inPath s)

/-- Reads a path from behind its first slash. -/
def readSegments (special : Bool) (cs : List Char) : List String :=
  walkSegments (fun done s => done ++ [s]) [] (cutSegments special cs)

/-- Divides what follows the authority into path, query and fragment. -/
def cutQuery (cs : List Char) : List Char × Option (List Char) × Option (List Char) :=
  let (cs, fragment) :=
    match cutFirst '#' cs with
    | some (before, after) => (before, some after)
    | none => (cs, none)
  match cutFirst '?' cs with
  | some (path, query) => (path, some query, fragment)
  | none => (cs, none, fragment)

/-- Puts query and fragment to a URL. -/
def withQuery (u : Url) (special : Bool) (query fragment : Option (List Char)) : Url :=
  { u with
    query := query.map fun q =>
      String.ofList (encode (if special then inSpecialQuery else inQuery) q)
    fragment := fragment.map fun f => String.ofList (encode inFragment f) }

/-- Reads a URL from behind the two slashes in front of its authority. -/
def readHierarchy (scheme : String) (special : Bool) (cs : List Char) : Except UrlFault Url := do
  let (authority, rest) ← readAuthority scheme special (cs.takeWhile (!endsAuthority special ·))
    (cs.dropWhile (!endsAuthority special ·))
  let (path, query, fragment) := cutQuery rest
  let ss :=
    match path with
    | [] => if special then [""] else []
    | c :: rest => readSegments special (if endsAuthority special c then rest else path)
  let u : Url :=
    { scheme
      credentials := authority.credentials
      host := some authority.host
      portNumber := authority.portNumber
      path := .segments ss }
  return u.withQuery special query fragment

def isSlash (c : Char) : Bool := c == '/' || c == '\\'

/-- Puts a segment behind those of a file. A drive in the first place has a colon. -/
def enterFile (done : List String) (s : String) : List String :=
  match done, s.toList with
  | [], [letter, mark] => [if isDrive [letter, mark] then String.ofList [letter, ':'] else s]
  | _, _ => done ++ [s]

/-- The segments of a file without empty ones ahead. -/
def dropEmptyStart (ss : List String) : List String :=
  match ss.dropWhile (· == "") with
  | [] => [""]
  | ss => ss

/-- The URL of a file on a host. One whose path begins with a drive has no host. -/
def fileUrl (host : List Char) (ss : List String) : Url :=
  let hasDrive := ss.head?.any fun s => isDrive s.toList
  { scheme := "file"
    host := some (if hasDrive then "" else String.ofList host)
    path := .segments (dropEmptyStart ss) }

/-- Reads host and path of a file from behind two slashes. The host `localhost` is none; a drive is
no host. Where no host is, an empty segment stands ahead of the path. -/
def readFileHost (cs : List Char) : Except UrlFault Url := do
  let named := cs.takeWhile (!isSlash ·)
  if isDrive named then return fileUrl [] (walkSegments enterFile [] (cutSegments true cs))
  let host ← if named.isEmpty then .ok [] else Host.ofSpecial named
  let host := if host = "localhost".toList then [] else host
  let start := if host.isEmpty then [""] else []
  let path := (cs.dropWhile (!isSlash ·)).drop 1
  return fileUrl host (walkSegments enterFile start (cutSegments true path))

/-- Reads the URL of a file. -/
def readFile (cs : List Char) : Except UrlFault Url := do
  let (rest, query, fragment) := cutQuery cs
  let u ←
    if 2 ≤ (rest.takeWhile isSlash).length then readFileHost (rest.drop 2)
    else
      let path := rest.dropWhile isSlash
      .ok (fileUrl [] (walkSegments enterFile [] (cutSegments true path)))
  return u.withQuery true query fragment

/-- Reads a URL of a scheme without rules of its own. -/
def readPlain (scheme : String) (cs : List Char) : Except UrlFault Url :=
  match cs with
  | '/' :: '/' :: rest => readHierarchy scheme false rest
  | cs =>
    let (path, query, fragment) := cutQuery cs
    let path : UrlPath :=
      match path with
      | '/' :: rest => .segments (readSegments false rest)
      | _ => .opaquePath (String.ofList (encode inOpaque path))
    let u : Url := { scheme, path }
    .ok (u.withQuery false query fragment)

/-- Reads an absolute URL. Controls and spaces around it do not count, and tabs and line ends
nowhere. -/
def parse (s : String) : Except UrlFault Url :=
  let isEdge (c : Char) : Bool := c.toNat ≤ 0x20
  let cs := ((s.toList.dropWhile isEdge).reverse.dropWhile isEdge).reverse.filter (!isIgnored ·)
  match readScheme cs with
  | none => .error .noScheme
  | some (scheme, rest) =>
    if scheme = "file" then readFile rest
    else if isSpecialScheme scheme then readHierarchy scheme true (rest.dropWhile isSlash)
    else readPlain scheme rest

end IngestViewer.Url
