import LoginGateway.CommandLine.Field
import LoginGateway.Text.Terminal

namespace LoginGateway.CommandLine

inductive Switch where
  | setting (field : Field)
  | help
  | version
  deriving DecidableEq

namespace Switch

def all : List Switch := Field.all.map setting ++ [help, version]

def long : Switch → String
  | setting field => field.name
  | help => "help"
  | version => "version"

def short? : Switch → Option Char
  | setting field => field.short?
  | help => some 'h'
  | version => some 'V'

def shown : Switch → String
  | setting field => field.shown
  | switch => "--" ++ switch.long

def ofLong? (name : String) : Option Switch := all.find? fun s => s.long == name

def ofShort? (c : Char) : Option Switch := all.find? fun s => s.short? == some c

end Switch

inductive Refusal where
  | unknown (argument : String)
  | invalid (field : Field) (raw : String) (fault : ValueFault)
  | missingValue (field : Field)
  | repeated (field : Field)
  | unneededValue (switch : Switch) (value : String)
  /-- The help is asked for, in its long or its short form. -/
  | help (long : Bool)
  | version (long : Bool)
  deriving DecidableEq

namespace Refusal

def valueRequired (field : Field) : String :=
  "a value is required for '" ++ field.shown ++ "' but none was supplied"

def invalidValue (field : Field) (raw : String) : String :=
  "invalid value '" ++ Text.Terminal.strip raw ++ "' for '" ++ field.shown ++ "'"

def problem? : Refusal → Option String
  | unknown argument => some ("unexpected argument '" ++ Text.Terminal.strip argument ++ "' found")
  | missingValue field => some (valueRequired field)
  | invalid field raw fault =>
    match fault with
    | .empty => some (valueRequired field)
    | .notBoolean => some (invalidValue field raw)
    | .logLevel => some (invalidValue field raw ++ ": invalid log level")
    | .numeral fault => some (invalidValue field raw ++ ": " ++ fault.message)
    | .outside n limit =>
      let sign := if n < 0 then "-" else ""
      some (invalidValue field raw ++ ": " ++ sign ++ Text.Numeral.text n.natAbs ++ " is not in 0..=" ++
        Text.Numeral.text limit)
  | repeated field => some ("the argument '" ++ field.shown ++ "' cannot be used multiple times")
  | unneededValue switch value =>
    some ("unexpected value '" ++ Text.Terminal.strip value ++ "' for '" ++ switch.shown ++
      "' found; no more were expected")
  | help _ | version _ => none

end Refusal

end LoginGateway.CommandLine
