import LoginGateway.Config
import LoginGateway.Text.Cut

namespace LoginGateway.Backend

def isSlash (c : Char) : Bool := c == '/'

def address (config : Config) (rest : String) (query : Option String) : String :=
  String.ofList (Text.trimEndBy isSlash config.backendUrl.render.toList) ++ config.pathPrefix ++ "/" ++
    String.ofList (rest.toList.dropWhile isSlash) ++
    match query with
    | none => ""
    | some query => if query = "" then "" else "?" ++ query

def plainDots : List Char → List Char
  | '%' :: '2' :: 'e' :: cs => '.' :: plainDots cs
  | '%' :: '2' :: 'E' :: cs => '.' :: plainDots cs
  | c :: cs => c :: plainDots cs
  | [] => []

/-- Some segment of the path is `.` or `..`; a backslash divides segments too. -/
def hasDotSegment (path : String) : Bool :=
  (path.toList.splitOnP fun c => c == '/' || c == '\\').any fun segment =>
    plainDots segment == ['.'] || plainDots segment == ['.', '.']

end LoginGateway.Backend
