import LoginGateway.Login.Lexeme

namespace LoginGateway.Login.Body

inductive Frame where
  | object
  | list
  deriving DecidableEq

/-- What may come next. -/
inductive Expect where
  | keyOrClose
  | key
  /-- A colon, and then the password if the key was its name. -/
  | colon (password : Bool)
  | password
  | value
  | valueOrClose
  | commaOrClose
  | nothing
  deriving DecidableEq

structure Reader where
  /-- The open brackets, the innermost first. -/
  frames : List Frame
  expect : Expect
  password : Option String := none

namespace Reader

def close (reader : Reader) : Reader :=
  let frames := reader.frames.tail
  { reader with frames, expect := if frames.isEmpty then .nothing else .commaOrClose }

def enter (reader : Reader) (frame : Frame) : Reader :=
  { reader with
    frames := frame :: reader.frames
    expect := match frame with
      | .object => .keyOrClose
      | .list => .valueOrClose }

def key (reader : Reader) (raw : List UInt8) : Option Reader :=
  if 1 < reader.frames.length then some { reader with expect := .colon false }
  else do
    let name ← Lexeme.decode? raw
    if name = "password" then
      if reader.password.isSome then none else some { reader with expect := .colon true }
    else some { reader with expect := .colon false }

def value (reader : Reader) : Lexeme → Option Reader
  | .objectOpen => some (reader.enter .object)
  | .listOpen => some (reader.enter .list)
  | .string _ | .scalar => some { reader with expect := .commaOrClose }
  | _ => none

def step (reader : Reader) (lexeme : Lexeme) : Option Reader :=
  match reader.expect, lexeme with
  | .keyOrClose, .objectClose => some reader.close
  | .keyOrClose, .string raw => reader.key raw
  | .key, .string raw => reader.key raw
  | .colon password, .colon =>
    some { reader with expect := if password then .password else .value }
  | .password, .string raw => do
    let text ← Lexeme.decode? raw
    some { reader with expect := .commaOrClose, password := some text }
  | .valueOrClose, .listClose => some reader.close
  | .valueOrClose, lexeme => reader.value lexeme
  | .value, lexeme => reader.value lexeme
  | .commaOrClose, .comma =>
    match reader.frames with
    | .object :: _ => some { reader with expect := .key }
    | .list :: _ => some { reader with expect := .value }
    | [] => none
  | .commaOrClose, .objectClose =>
    if reader.frames.head? = some .object then some reader.close else none
  | .commaOrClose, .listClose =>
    if reader.frames.head? = some .list then some reader.close else none
  | _, _ => none

end Reader

def ofLexemes? : List Lexeme → Option String
  | [.listOpen, .string raw, .listClose] => Lexeme.decode? raw
  | .objectOpen :: rest => do
    let reader ← rest.foldlM Reader.step ⟨[.object], .keyOrClose, none⟩
    if reader.expect = .nothing then reader.password else none
  | _ => none

def password? (octets : List UInt8) : Option String := do
  ofLexemes? (← Lexeme.scan? octets)

end LoginGateway.Login.Body
