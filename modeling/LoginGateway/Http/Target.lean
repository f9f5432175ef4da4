import LoginGateway.Text.Cut

namespace LoginGateway.Http

structure Target where
  path : String
  query : Option String
  deriving DecidableEq

namespace Target

inductive Fault where
  | empty
  | invalidFormat
  | invalidChar
  | invalidAuthority
  | tooLong
  | schemeTooLong
  deriving DecidableEq

def Fault.message : Fault → String
  | empty => "empty string"
  | invalidFormat => "invalid format"
  | invalidChar => "invalid uri character"
  | invalidAuthority => "invalid authority"
  | tooLong => "uri too long"
  | schemeTooLong => "scheme too long"

/-- Beside letters, digits and text beyond ASCII: all but controls, space and `#<>?` and the backtick. -/
def isPathChar (c : Char) : Bool :=
  128 ≤ c.toNat || (33 ≤ c.toNat && c.toNat ≤ 126 && !(['#', '<', '>', '?', '\x60'].contains c))

def isQueryChar (c : Char) : Bool :=
  128 ≤ c.toNat || (33 ≤ c.toNat && c.toNat ≤ 126 && !(['"', '#', '<', '>'].contains c))

/-- Reads a path and a query, up to the fragment. An empty path stands for the root. -/
def pathAndQuery (cs : List Char) : Except Fault Target :=
  let front := cs.takeWhile (· != '#')
  let path := front.takeWhile (· != '?')
  let query := (front.dropWhile (· != '?')).tail?
  if path.all isPathChar && (query.getD []).all isQueryChar then
    .ok ⟨if path.isEmpty then "/" else String.ofList path, query.map String.ofList⟩
  else .error .invalidChar

def isPlainAuthorityChar (c : Char) : Bool :=
  c.isAlphanum || ['!', '$', '&', '\x27', '(', ')', '*', '+', ',', '-', '.', ';', '=', '_', '~'].contains c

def endsAuthority (c : Char) : Bool := c == '/' || c == '?' || c == '#'

structure AuthorityScan where
  /-- Colons since the last `@` or `]`. -/
  colons : Nat := 0
  opened : Bool := false
  closed : Bool := false
  /-- There was a percent sign since the last `@` or `]`. -/
  percent : Bool := false
  atEnd : Bool := false

def AuthorityScan.step (scan : AuthorityScan) (c : Char) : Except Fault AuthorityScan :=
  let scan := { scan with atEnd := false }
  if c = ':' then
    if 8 ≤ scan.colons then .error .invalidAuthority else .ok { scan with colons := scan.colons + 1 }
  else if c = '[' then
    if scan.percent || scan.opened then .error .invalidAuthority else .ok { scan with opened := true }
  else if c = ']' then
    if !scan.opened || scan.closed then .error .invalidAuthority
    else .ok { scan with closed := true, colons := 0, percent := false }
  else if c = '@' then .ok { scan with colons := 0, percent := false, atEnd := true }
  else if c = '%' then .ok { scan with percent := true }
  else if isPlainAuthorityChar c then .ok scan
  else .error .invalidChar

/-- Checks an authority: brackets in a pair, one port at most, nothing escaped in the host. -/
def checkAuthority (cs : List Char) : Except Fault Unit := do
  let scan ← cs.foldlM AuthorityScan.step {}
  if scan.opened != scan.closed || 1 < scan.colons || scan.atEnd || scan.percent then
    .error .invalidAuthority
  else .ok ()

def isSchemeChar (c : Char) : Bool := c.isAlphanum || ['+', '-', '.', '~'].contains c

def afterScheme? (cs : List Char) : Except Fault (Option (List Char)) :=
  match Text.dropFrontIgnoringCase? "http://".toList cs,
    Text.dropFrontIgnoringCase? "https://".toList cs with
  | some rest, _ => .ok (some rest)
  | none, some rest => .ok (some rest)
  | none, none =>
    let scheme := cs.takeWhile isSchemeChar
    match Text.dropFront? "://".toList (cs.dropWhile isSchemeChar) with
    | some rest =>
      if cs.length ≤ 3 then .ok none
      else if 64 < scheme.length then .error .schemeTooLong
      else .ok (some rest)
    | none => .ok none

def parse (s : String) : Except Fault Target :=
  let cs := s.toList
  if 65534 < s.utf8ByteSize then .error .tooLong
  else match cs with
  | [] => .error .empty
  | ['*'] => .ok ⟨"*", none⟩
  | '/' :: _ => pathAndQuery cs
  | _ => do
    match ← afterScheme? cs with
    | none =>
      checkAuthority (cs.takeWhile (!endsAuthority ·))
      if cs.any endsAuthority then .error .invalidFormat else .ok ⟨"", none⟩
    | some [] => .error .empty
    | some rest =>
      let authority := rest.takeWhile (!endsAuthority ·)
      checkAuthority authority
      if authority.isEmpty then .error .invalidFormat
      else pathAndQuery (rest.dropWhile (!endsAuthority ·))

end Target

end LoginGateway.Http
