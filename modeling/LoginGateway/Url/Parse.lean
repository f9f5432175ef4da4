import LoginGateway.Text.Blank
import LoginGateway.Url.Basic

namespace LoginGateway.Url

def isBreak (c : Char) : Bool := c == '\t' || c == '\n' || c == '\r'

def significant (cs : List Char) : List Char := cs.filter (!isBreak ·)

def isSchemeChar (c : Char) : Bool := c.isAlphanum || ['+', '-', '.'].contains c

def cutScheme? (cs : List Char) : Option (String × List Char) :=
  match Text.cutAt? ':' cs with
  | none => none
  | some (front, rest) =>
    let name := significant front
    if name.head?.any Char.isAlpha && name.all isSchemeChar then
      some (String.ofList (name.map Char.toLower), rest)
    else none

def isSlash (special : Bool) (c : Char) : Bool := c == '/' || (special && c == '\\')

def endsMain (c : Char) : Bool := c == '?' || c == '#'

def suffix (kind : SchemeKind) (cs : List Char) : Option String × Option String :=
  let set := if kind.isSpecial then EncodeSet.specialQuery else EncodeSet.query
  let fragment (cs : List Char) := String.ofList (Percent.encode .fragment cs)
  match cs with
  | '?' :: rest =>
    (some (String.ofList (Percent.encode set (rest.takeWhile (· != '#')))),
      (rest.dropWhile (· != '#')).tail?.map fragment)
  | '#' :: rest => (none, some (fragment rest))
  | _ => (none, none)

def cutUserinfo (cs : List Char) : Option (List Char) × List Char :=
  if cs.contains '@' then
    (some ((cs.reverse.dropWhile (· != '@')).tail.reverse), (cs.reverse.takeWhile (· != '@')).reverse)
  else (none, cs)

def readUserinfo (cs : List Char) : String × Option String :=
  let encode (cs : List Char) := String.ofList (Percent.encode .userinfo cs)
  match Text.cutAt? ':' cs with
  | none => (encode cs, none)
  | some (name, []) => (encode name, none)
  | some (name, password) => (encode name, some (encode password))

def spanHost : Bool → List Char → List Char × List Char
  | _, [] => ([], [])
  | inside, c :: cs =>
    if c = ':' && !inside then ([], c :: cs)
    else
      let (a, b) := spanHost (if c = '[' then true else if c = ']' then false else inside) cs
      (c :: a, b)

def readPort (cs : List Char) : Except UrlFault (Option UInt16) :=
  if cs.isEmpty then .ok none
  else match Text.Numeral.readDigits 65535 .tooLarge 0 cs with
  | .ok n => .ok (some (UInt16.ofNat n))
  | .error _ => .error .invalidPort

/-- Reads an authority. What follows its port from a backslash on belongs to the path. -/
def readAuthority (kind : SchemeKind) (cs : List Char) (alone : Bool) :
    Except UrlFault (Authority × List Char) := do
  let (info, place) := cutUserinfo cs
  if info = some [] && place.isEmpty && !alone then throw .emptyHost
  let (hostText, portText) := spanHost false place
  let host ← if kind.isSpecial then
      if hostText.isEmpty then throw .emptyHost else (Host.parse hostText).map some
    else Host.parseRaw hostText
  if host.isNone && !portText.isEmpty then throw .emptyHost
  let digits := portText.tail.takeWhile (· != '\\')
  let port ← readPort digits
  let (username, password) := readUserinfo (info.getD [])
  if host.isNone && (username != "" || password.isSome) then throw .emptyHost
  let port := match kind with
    | .special d => if port = some d then none else port
    | _ => port
  return (⟨username, password, host, port⟩, portText.tail.dropWhile (· != '\\'))

def pathAfterAuthority (kind : SchemeKind) (cs : List Char) : Path :=
  match cs with
  | [] => if kind.isSpecial then .rooted [""] else .rooted []
  | c :: rest => Path.below kind.isSpecial [] (if isSlash kind.isSpecial c then rest else c :: rest)

def afterSlashes (scheme : String) (cs : List Char) : Except UrlFault Url := do
  let kind := SchemeKind.ofScheme scheme
  let main := cs.takeWhile (!endsMain ·)
  let tail := cs.dropWhile (!endsMain ·)
  let pathText := main.dropWhile (!isSlash kind.isSpecial ·)
  let (authority, extra) ←
    readAuthority kind (main.takeWhile (!isSlash kind.isSpecial ·)) (pathText.isEmpty && tail.isEmpty)
  let (query, fragment) := suffix kind tail
  return ⟨scheme, some authority, pathAfterAuthority kind (extra ++ pathText), query, fragment⟩

/-- A drive, written with a colon, and what follows it after a break. -/
def cutDrive? (segment : List Char) : Option (String × List Char) :=
  match segment.dropWhile isBreak with
  | [] => none
  | c :: cs =>
    match cs.dropWhile isBreak with
    | ':' :: rest =>
      if c.isAlpha && rest.head?.any isBreak && !(significant rest).isEmpty then
        some (String.ofList [c, ':'], significant rest)
      else none
    | _ => none

/-- The path of a file while it is read: its segments, the last first, and whether one named a drive
by itself. -/
structure FilePath where
  reversed : List String := []
  drive : Bool := false

namespace FilePath

def add (path : FilePath) (segment : String) : FilePath :=
  { path with reversed := segment :: path.reversed }

/-- Adds a segment. A drive counts only at the root; it is written with a colon, and a break after it
ends its segment. -/
def push (path : FilePath) (segment : List Char) (atEnd : Bool) : FilePath :=
  match if path.reversed.isEmpty then cutDrive? segment else none with
  | some (drive, rest) => (path.add drive).add (Path.encodeSegment rest)
  | none =>
    let cs := significant segment
    let close (path : FilePath) : FilePath := if atEnd then path.add "" else path
    if Path.isDoubleDot cs then close { path with reversed := Path.up path.reversed }
    else if Path.isDot cs then close path
    else if path.reversed.isEmpty && Path.isDriveName cs then
      { path.add (String.ofList (cs.take 1 ++ [':'])) with drive := true }
    else path.add (Path.encodeSegment cs)

def pushAll (path : FilePath) : List (List Char) → FilePath
  | [] => path
  | s :: rest => pushAll (path.push s rest.isEmpty) rest

def segments (path : FilePath) : List String :=
  match path.reversed.reverse.dropWhile (· == "") with
  | [] => [""]
  | segments => segments

end FilePath

def cutSlash? (cs : List Char) : Option (List Char) :=
  match cs.dropWhile isBreak with
  | [] => none
  | c :: rest => if isSlash true c then some rest else none

/-- The host of a file and the text of its path, from what stands before a query and a fragment. A
drive in the place of a host belongs to the path. -/
def cutFileHost (cs : List Char) : Except UrlFault (Option Host × List Char) :=
  match cutSlash? cs with
  | none => .ok (none, cs)
  | some inner =>
    match cutSlash? inner with
    | none => .ok (none, inner)
    | some rest =>
      let place := rest.takeWhile (!isSlash true ·)
      let after := rest.drop place.length
      if (significant place).isEmpty || Path.isDriveName (significant place) then .ok (none, rest)
      else (Host.parse (significant place)).map fun host =>
        if host = .name "localhost" then (none, after) else (some host, (cutSlash? after).getD [])

def fileUrl (cs : List Char) : Except UrlFault Url := do
  let (query, fragment) := suffix .file (significant (cs.dropWhile (!endsMain ·)))
  let (host, text) ← cutFileHost (cs.takeWhile (!endsMain ·))
  let path := FilePath.pushAll {} (Path.segmentsOf true text)
  let host := if path.drive then none else host
  return ⟨"file", some ⟨"", none, host, none⟩, .rooted path.segments, query, fragment⟩

def otherScheme (scheme : String) (cs : List Char) : Except UrlFault Url :=
  match cs with
  | '/' :: '/' :: rest => afterSlashes scheme rest
  | _ =>
    let main := cs.takeWhile (!endsMain ·)
    let (query, fragment) := suffix .other (cs.dropWhile (!endsMain ·))
    let path := match main with
      | '/' :: rest => Path.below false [] rest
      | _ => .bare (String.ofList (Percent.encode .controls main))
    .ok ⟨scheme, none, path, query, fragment⟩

def withScheme (scheme : String) (cs : List Char) : Except UrlFault Url :=
  match SchemeKind.ofScheme scheme with
  | .special _ => afterSlashes scheme ((significant cs).dropWhile (isSlash true))
  | .file => fileUrl cs
  | .other => otherScheme scheme (significant cs)

def trim (s : String) : List Char := Text.trimBy (·.toNat ≤ 32) s.toList

def parse (s : String) : Except UrlFault Url :=
  match cutScheme? (trim s) with
  | some (scheme, rest) => withScheme scheme rest
  | none => .error .noScheme

def relative (base : Url) (cs : List Char) : Except UrlFault Url :=
  let main := cs.takeWhile (!endsMain ·)
  let (query, fragment) := suffix base.kind (cs.dropWhile (!endsMain ·))
  match main with
  | [] => match cs with
    | '?' :: _ => .ok { base with query, fragment }
    | _ => .ok { base with fragment }
  | '/' :: '/' :: _ => afterSlashes base.scheme (cs.drop 2)
  | a :: b :: _ =>
    if isSlash true a then
      if isSlash true b then afterSlashes base.scheme (cs.dropWhile (isSlash true))
      else .ok { base with path := Path.below true [] main.tail, query, fragment }
    else .ok { base with path := Path.below true base.path.segments.dropLast main, query, fragment }
  | [a] =>
    if isSlash true a then .ok { base with path := Path.below true [] [], query, fragment }
    else .ok { base with path := Path.below true base.path.segments.dropLast main, query, fragment }

/-- Reads a URL or a text relative to `base`, whose scheme is special. -/
def join (base : Url) (s : String) : Except UrlFault Url :=
  match cutScheme? (trim s) with
  | none => relative base (significant (trim s))
  | some (scheme, rest) =>
    if scheme = base.scheme && ((significant rest).takeWhile (isSlash true)).length < 2 then
      relative base (significant rest)
    else withScheme scheme rest

end LoginGateway.Url
