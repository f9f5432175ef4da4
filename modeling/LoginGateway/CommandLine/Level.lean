import LoginGateway.CommandLine.Parse

namespace LoginGateway.CommandLine

inductive Level where
  | warn
  | info
  | debug
  | trace
  deriving DecidableEq

namespace Level

def name : Level → String
  | warn => "WARN"
  | info => "INFO"
  | debug => "DEBUG"
  | trace => "TRACE"

def ofVerbosity : Nat → Option Level
  | 0 => none
  | 1 => some warn
  | 2 => some info
  | 3 => some debug
  | _ => some trace

def showsInfo : Level → Bool
  | warn => false
  | info | debug | trace => true

end Level

def verbosity (given : Given) : Nat := (given.number? .verbosity).getD 0

def level? (given : Given) : Option Level := Level.ofVerbosity (verbosity given)

end LoginGateway.CommandLine
