import LoginGateway.Text.Cut
import LoginGateway.Text.Joining
import LoginGateway.Url.Fold
import LoginGateway.Url.Punycode

namespace LoginGateway.Url

/-- A label: its text and its ASCII form. -/
structure Label where
  text : List Char
  ascii : List Char
  deriving DecidableEq

namespace Label

def isForbidden (c : Char) : Bool :=
  c.toNat ≤ 32 || c.toNat == 127 ||
    ['%', '#', '/', ':', '<', '>', '?', '@', '[', '\\', ']', '^', '|'].contains c

def isNameChar (c : Char) : Bool := 128 ≤ c.toNat || !isForbidden c

def isAscii (cs : List Char) : Bool := cs.all (·.toNat < 128)

def isLabelChar (c : Char) : Bool :=
  c.toNat < 128 && !c.isUpper && !isForbidden c && c != '.'

def marker : List Char := ['x', 'n', '-', '-']

def maxText : Nat := 1000

def maxCode : Nat := 2000

/-- A text that may be encoded is beyond ASCII and folded, begins neither with a mark nor with the
marker of an encoding, and has its joiners in place. -/
def isText (cs : List Char) : Bool :=
  !isAscii cs && cs.length ≤ maxText && cs.all (fun c => isNameChar c && c != '.') &&
    foldName? cs == some cs && !cs.head?.any Text.isMark && Text.joinersFit [] cs &&
    (Text.dropFront? marker cs).isNone

def ofCode? (code : List Char) : Option Label := do
  let text ← Punycode.decode? code
  if (marker ++ code).all isLabelChar && isText text && Punycode.encode text == code then
    some ⟨text, marker ++ code⟩
  else none

/-- The label of a folded text. One that begins with the marker has to be an encoding. -/
def ofText? (cs : List Char) : Option Label :=
  if isAscii cs then
    match Text.dropFront? marker cs with
    | none => if cs.all isLabelChar then some ⟨cs, cs⟩ else none
    | some code => if code.length ≤ maxCode then ofCode? code else none
  else if cs.length ≤ maxText then ofCode? (Punycode.encode cs)
  else none

theorem ascii_of_ofCode? {code : List Char} {label : Label} (h : ofCode? code = some label) :
    label.ascii = marker ++ code ∧ (marker ++ code).all isLabelChar := by
  simp only [ofCode?, Option.bind_eq_bind, Option.bind_eq_some_iff, Option.ite_none_right_eq_some,
    Bool.and_eq_true, Option.some.injEq] at h
  obtain ⟨text, -, ⟨⟨hc, -⟩, -⟩, rfl⟩ := h
  exact ⟨rfl, hc⟩

theorem isAscii_of_isLabelChar {cs : List Char} (h : cs.all isLabelChar) : isAscii cs := by
  simp only [List.all_eq_true, isLabelChar, Bool.and_eq_true] at h
  simp only [isAscii, List.all_eq_true]
  exact fun c hc => (h c hc).1.1.1

theorem dropFront?_marker (code : List Char) : Text.dropFront? marker (marker ++ code) = some code := by
  simp [marker, Text.dropFront?]

end Label

end LoginGateway.Url
