import LoginGateway.Text.Numeral

namespace LoginGateway

inductive Json where
  | null
  | bool (b : Bool)
  | number (n : Nat)
  | string (s : String)
  | list (items : List Json)
  | object (members : List (String × Json))

namespace Json

def escape (c : Char) : List Char :=
  if c = '"' || c = '\\' then ['\\', c]
  else if c = '\n' then ['\\', 'n']
  else if c = '\r' then ['\\', 'r']
  else if c = '\t' then ['\\', 't']
  else if c = '\x08' then ['\\', 'b']
  else if c = '\x0c' then ['\\', 'f']
  else if c.toNat < 32 then
    ['\\', 'u', '0', '0', Nat.digitChar (c.toNat / 16), Nat.digitChar (c.toNat % 16)]
  else [c]

def quote (s : String) : String := String.ofList ('"' :: s.toList.flatMap escape ++ ['"'])

mutual

def text : Json → String
  | null => "null"
  | bool true => "true"
  | bool false => "false"
  | number n => Text.Numeral.text n
  | string s => quote s
  | list items => "[" ++ ",".intercalate (textItems items) ++ "]"
  | object members => "\x7b" ++ ",".intercalate (textMembers members) ++ "\x7d"

def textItems : List Json → List String
  | [] => []
  | item :: items => text item :: textItems items

def textMembers : List (String × Json) → List String
  | [] => []
  | (name, value) :: members => (quote name ++ ":" ++ text value) :: textMembers members

end

def get? : Json → List String → Option Json
  | value, [] => some value
  | object members, name :: rest => (members.lookup name).bind fun v => get? v rest
  | list items, index :: rest =>
    match Text.Numeral.readNat Text.Numeral.maxUnsigned index.toList with
    | .ok n => if index.startsWith "+" || (index.startsWith "0" && index != "0") then none
      else (items[n]?).bind fun v => get? v rest
    | .error _ => none
  | _, _ :: _ => none

/-- A step of a pointer: `~1` stands for a slash and `~0` for a tilde. -/
def pointerStep : List Char → List Char
  | '~' :: '1' :: cs => '/' :: pointerStep cs
  | '~' :: '0' :: cs => '~' :: pointerStep cs
  | c :: cs => c :: pointerStep cs
  | [] => []

def at? (value : Json) (pointer : String) : Option Json :=
  match pointer.toList with
  | [] => some value
  | '/' :: cs => value.get? ((cs.splitOn '/').map fun step => String.ofList (pointerStep step))
  | _ => none

end Json

end LoginGateway
