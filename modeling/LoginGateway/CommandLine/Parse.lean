import LoginGateway.CommandLine.Refusal
import LoginGateway.Text.Cut

namespace LoginGateway.CommandLine

abbrev Given := List (Field × Value)

abbrev Environment := String → Option String

namespace Given

def value? (given : Given) (field : Field) : Option Value := List.lookup field given

def text? (given : Given) (field : Field) : Option String :=
  match given.value? field with
  | some (.text s) => some s
  | _ => none

def number? (given : Given) (field : Field) : Option Nat :=
  match given.value? field with
  | some (.number n) => some n
  | _ => none

def flag (given : Given) (field : Field) : Bool := given.value? field == some (.flag true)

def read (given : Given) (field : Field) (raw : String) : Except Refusal Given :=
  match field.kind.read raw with
  | .ok value => .ok ((field, value) :: given)
  | .error fault => .error (.invalid field raw fault)

end Given

inductive Argument where
  /-- Two hyphens: what follows is no option. -/
  | divider
  | long (name : String) (value : Option String)
  /-- The characters after one hyphen. -/
  | cluster (chars : List Char)
  | plain (text : String)

def Argument.ofString (s : String) : Argument :=
  match s.toList with
  | ['-'] => plain s
  | ['-', '-'] => divider
  | '-' :: '-' :: cs =>
    match Text.cutAt? '=' cs with
    | some (name, value) => long (String.ofList name) (some (String.ofList value))
    | none => long (String.ofList cs) none
  | '-' :: cs => cluster cs
  | _ => plain s

structure Progress where
  given : Given := []
  /-- An option whose value is an argument of its own, with that argument once it is there. -/
  pending : Option (Field × Option String) := none
  divided : Bool := false

namespace Progress

/-- Gives a setting the value `raw`; it may not have one yet. -/
def assign (progress : Progress) (field : Field) (raw : String) : Except Refusal Progress :=
  if (progress.given.value? field).isSome then .error (.repeated field)
  else do
    let given ← progress.given.read field raw
    .ok { progress with given }

def resolve (progress : Progress) : Except Refusal Progress :=
  match progress.pending with
  | none => .ok progress
  | some (field, none) => .error (.missingValue field)
  | some (field, some raw) => assign { progress with pending := none } field raw

def countUp (progress : Progress) (field : Field) : Except Refusal Progress := do
  let n := (progress.given.number? field).getD 0 + 1
  let given ← Given.read (progress.given.filter fun e => e.1 ≠ field) field (Text.Numeral.text n)
  .ok { progress with given }

def switchOn (progress : Progress) (switch : Switch) (long : Bool) : Except Refusal Progress := do
  let progress ← progress.resolve
  match switch with
  | .setting field =>
    match field.kind with
    | .count => progress.countUp field
    | _ => progress.assign field "true"
  | .help => .error (.help long)
  | .version => .error (.version long)

def option (progress : Progress) (field : Field) (attached : Option String) :
    Except Refusal Progress := do
  let progress ← progress.resolve
  match attached with
  | some raw => progress.assign field raw
  | none => .ok { progress with pending := some (field, none) }

def longOption (progress : Progress) (name : String) (attached : Option String) :
    Except Refusal Progress :=
  match Switch.ofLong? name with
  | none => .error (.unknown ("--" ++ name))
  | some switch =>
    match switch, attached with
    | .setting field, _ =>
      if field.takesValue then progress.option field attached
      else match attached with
      | some value => .error (.unneededValue switch value)
      | none => progress.switchOn switch true
    | _, some value => .error (.unneededValue switch value)
    | _, none => progress.switchOn switch true

def attachedValue : List Char → Option String
  | [] => none
  | '=' :: cs => some (String.ofList cs)
  | cs => some (String.ofList cs)

def shortOptions (progress : Progress) : List Char → Except Refusal Progress
  | [] => .ok progress
  | c :: cs =>
    match Switch.ofShort? c with
    | none => .error (.unknown (String.ofList ['-', c]))
    | some (.setting field) =>
      if field.takesValue then progress.option field (attachedValue cs)
      else do
        let progress ← progress.switchOn (.setting field) false
        shortOptions progress cs
    | some switch => do
      let progress ← progress.switchOn switch false
      shortOptions progress cs

def step (progress : Progress) (argument : String) : Except Refusal Progress :=
  if progress.divided then .error (.unknown argument)
  else match Argument.ofString argument with
  | .divider => .ok { progress with divided := true }
  | .long name attached => progress.longOption name attached
  | .cluster chars => progress.shortOptions chars
  | .plain text =>
    match progress.pending with
    | some (field, none) => .ok { progress with pending := some (field, some text) }
    | _ => .error (.unknown text)

end Progress

/-- Takes a setting from its variable, if it is not given yet. -/
def Given.fromVariable (environment : Environment) (given : Given) (field : Field) :
    Except Refusal Given :=
  match given.value? field, environment field.envName with
  | none, some raw => given.read field raw
  | _, _ => .ok given

/-- The settings that the arguments give, and for the others their variables. -/
def parse (arguments : List String) (environment : Environment) : Except Refusal Given := do
  let progress ← arguments.foldlM Progress.step {}
  let progress ← progress.resolve
  Field.all.foldlM (Given.fromVariable environment) progress.given

end LoginGateway.CommandLine
