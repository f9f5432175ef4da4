import LoginGateway.Url.Host

namespace LoginGateway.Telemetry.Peer

def isNameChar (c : Char) : Bool := c.isAlphanum || c == '_' || c == '-'

def isLabel (label : List Char) : Bool :=
  !label.isEmpty && label.length ≤ 63 && label.all isNameChar &&
    label.head? != some '-' && label.getLast? != some '-'

def labels (name : List Char) : List (List Char) :=
  match (name.splitOn '.').reverse with
  | [] :: last :: rest => (last :: rest).reverse
  | all => all.reverse

/-- A name has at most 253 characters, and its last label is not a number. -/
def isName (name : List Char) : Bool :=
  name.length ≤ 253 && (labels name).all isLabel &&
    !(labels name).getLast?.any (·.all Char.isDigit)

def canProve : Url.Host → Bool
  | .name text => isName text.toList
  | .ipv4 _ => true
  | .ipv6 _ => false

example : isName "a_b.c-d.".toList ∧ ¬isName "a..b".toList ∧ ¬isName "a.1".toList := by
  decide +kernel

end LoginGateway.Telemetry.Peer
