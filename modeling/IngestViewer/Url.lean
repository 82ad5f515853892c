import IngestViewer.Host

namespace IngestViewer

/-- The path of a URL: a text that is not divided, or segments, each behind a slash. -/
inductive UrlPath where
  | opaquePath (text : String)
  | segments (ss : List String)
deriving DecidableEq, Repr

/-- A URL, all of its parts in the form in which they are written. -/
structure Url where
  scheme : String
  credentials : Option String := none
  host : Option String := none
  portNumber : Option Nat := none
  path : UrlPath
  query : Option String := none
  fragment : Option String := none
deriving DecidableEq, Repr

/-- The port number of a scheme that need not be written. -/
def defaultPortNumber? (scheme : String) : Option Nat :=
  if scheme = "http" ∨ scheme = "ws" then some 80
  else if scheme = "https" ∨ scheme = "wss" then some 443
  else if scheme = "ftp" then some 21
  else none

/-- Whether a scheme has rules of its own for hosts and paths. -/
def isSpecialScheme (scheme : String) : Bool :=
  (defaultPortNumber? scheme).isSome || scheme == "file"

namespace UrlPath

def text : UrlPath → String
  | opaquePath t => t
  | segments ss => String.join (ss.map ("/" ++ ·))

end UrlPath

namespace Url

/-- What stands between the scheme and the path. A path that begins with an empty segment needs a
dot before it if there is no host. -/
def authorityText (u : Url) : String :=
  match u.host with
  | some host =>
    "//" ++ (match u.credentials with
      | some c => c ++ "@"
      | none => "") ++ host ++
      match u.portNumber with
      | some p => ":" ++ String.ofList (Nat.toDigits 10 p)
      | none => ""
  | none =>
    match u.path with
    | .segments ("" :: _ :: _) => "/."
    | _ => ""

def queryText (u : Url) : String :=
  match u.query with
  | some q => "?" ++ q
  | none => ""

/-- The URL as it is sent: without its fragment. -/
def requestText (u : Url) : String :=
  u.scheme ++ ":" ++ u.authorityText ++ u.path.text ++ u.queryText

def text (u : Url) : String :=
  u.requestText ++
    match u.fragment with
    | some f => "#" ++ f
    | none => ""

/-- Puts a segment behind others. The path of nothing but a slash has no segment to keep. -/
def appendSegment (ss : List String) (s : String) : List String :=
  if ss = [""] then [s] else ss ++ [s]

/-- The segments without one that is empty at the end, unless it is the only one. -/
def dropEmptyEnd (ss : List String) : List String :=
  if 1 < ss.length ∧ ss.getLast? = some "" then ss.dropLast else ss

/-- Characters that a URL does not notice. -/
def isIgnored (c : Char) : Bool := c == '\t' || c == '\n' || c == '\r'

/-- Whether a text names a drive: a letter and a colon or a bar. -/
def isDrive : List Char → Bool
  | [letter, mark] => letter.isAlpha && (mark == ':' || mark == '|')
  | _ => false

/-- Whether no way leads back over a segment: it names a drive, alone or before a backslash. -/
def isAnchor (s : String) : Bool := isDrive (s.toList.takeWhile (· != '\\'))

/-- Goes one segment back, as far as that is possible. -/
def goBack (ss : List String) : List String :=
  if ss.getLast?.any isAnchor then ss else ss.dropLast

/-- Puts a text behind the segments of a path as a segment of its own. One dot and two dots are no
segments; what becomes one of them when ignored characters are left out still has its meaning. -/
def pushSegment (special : Bool) (ss : List String) (name : String) : List String :=
  if name = "." ∨ name = ".." then ss
  else
    let cs := name.toList.filter (!isIgnored ·)
    if cs = ['.', '.'] then goBack ss ++ [""]
    else if cs = ['.'] then appendSegment ss ""
    else
      let set := if special then PercentEncoding.inSpecialSegment else PercentEncoding.inSegment
      appendSegment ss (String.ofList (PercentEncoding.encode set cs))

/-- The URL of a member of a collection: its name is one segment more. A URL whose path is not
divided has no members. -/
def member? (base : Url) (name : String) : Option Url :=
  match base.path with
  | .opaquePath _ => none
  | .segments ss =>
    some { base with
      path := .segments (pushSegment (isSpecialScheme base.scheme) (dropEmptyEnd ss) name) }

end Url

end IngestViewer
