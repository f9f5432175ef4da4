import LoginGateway.Url.Percent

namespace LoginGateway.Url

inductive Path where
  /-- Segments that each follow a slash; the empty list is the empty path. -/
  | rooted (segments : List String)
  /-- A text without structure. -/
  | bare (text : String)
  deriving DecidableEq

namespace Path

def isDot (segment : List Char) : Bool :=
  [".".toList, "%2e".toList].contains (segment.map Char.toLower)

def isDoubleDot (segment : List Char) : Bool :=
  ["..".toList, ".%2e".toList, "%2e.".toList, "%2e%2e".toList].contains (segment.map Char.toLower)

def isDriveName : List Char → Bool
  | [c, d] => c.isAlpha && (d == ':' || d == '|')
  | _ => false

/-- The path of the segment before the last one, given from its end. No path leads up from a drive. -/
def up : List String → List String
  | [] => []
  | s :: reversed =>
    if isDriveName (s.toList.takeWhile (· != '\\')) then s :: reversed else reversed

/-- Adds segments to a path whose segments stand in reverse, the last first. At the end of the path a
dot segment leaves an empty segment. -/
def resolve : List String → List String → List String
  | reversed, [] => reversed
  | reversed, [s] =>
    if isDoubleDot s.toList then "" :: up reversed
    else if isDot s.toList then "" :: reversed
    else s :: reversed
  | reversed, s :: rest =>
    if isDoubleDot s.toList then resolve (up reversed) rest
    else if isDot s.toList then resolve reversed rest
    else resolve (s :: reversed) rest

def segmentsOf (special : Bool) (cs : List Char) : List (List Char) :=
  cs.splitOnP fun c => c == '/' || (special && c == '\\')

def encodeSegment (cs : List Char) : String := String.ofList (Percent.encode .path cs)

def below (special : Bool) (base : List String) (cs : List Char) : Path :=
  .rooted (resolve base.reverse ((segmentsOf special cs).map encodeSegment)).reverse

def text : Path → String
  | rooted segments => String.join (segments.map ("/" ++ ·))
  | bare text => text

def segments : Path → List String
  | rooted segments => segments
  | bare _ => []

end Path

end LoginGateway.Url
