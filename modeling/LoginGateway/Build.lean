import LoginGateway.Text.Blank
import LoginGateway.Text.Hex

namespace LoginGateway.Build

def name : String := "rampart"

def version : String := "0.1.0"

structure Commit where
  hash : String
  digits : ∀ c ∈ hash.toList, (Text.Hex.value? c).isSome

/-- The hash of the commit that the program was built from. A build outside a repository knows of none. -/
def hash (commit? : Option Commit) : String := (commit?.map Commit.hash).getD "unknown"

def about : String := "Operator authentication gateway and backend proxy"

def userAgent : String := name ++ "/" ++ version

def firstOctets? : Nat → List Char → Option (List Char)
  | 0, _ => some []
  | _, [] => some []
  | n, c :: cs => if c.utf8Size ≤ n then (firstOctets? (n - c.utf8Size) cs).map (c :: ·) else none

/-- A commit hash without blanks around it, cut to seven octets; `none` if a character is cut. -/
def shortCommit? (hash : String) : Option String :=
  let trimmed := Text.trim hash
  if 7 < trimmed.utf8ByteSize then (firstOctets? 7 trimmed.toList).map String.ofList else some trimmed

def tag (commit? : Option Commit) : String :=
  name ++ ":" ++ version ++ ":" ++
    (if 7 < (hash commit?).utf8ByteSize then
      ((firstOctets? 7 (hash commit?).toList).map String.ofList).getD "" else "")

end LoginGateway.Build
