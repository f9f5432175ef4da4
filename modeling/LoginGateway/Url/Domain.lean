import LoginGateway.Text.Direction
import LoginGateway.Url.Label

namespace LoginGateway.Url.Domain

/-- Where one label is written from right to left, each has to keep to one direction. -/
def isDirected (labels : List Label) : Bool :=
  !labels.any (·.text.any Text.Direction.isRightward) ||
    labels.all (Text.Direction.isUniform ·.text)

def toAscii? (name : List Char) : Option (List Char) := do
  let folded ← foldName? name
  if folded.all Label.isNameChar then
    let labels ← (folded.splitOn '.').mapM Label.ofText?
    if isDirected labels then some (['.'].intercalate (labels.map Label.ascii)) else none
  else none

end LoginGateway.Url.Domain
