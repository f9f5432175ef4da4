import LoginGateway.Startup

open LoginGateway

def readEnvironment : IO CommandLine.Environment := do
  let pairs ← Startup.envNames.mapM fun name => return (name, ← IO.getEnv name)
  return fun name => (pairs.lookup name).join

def main (arguments : List String) : IO UInt32 := do
  let environment ← readEnvironment
  match Startup.prepare arguments environment with
  | .error ending =>
    IO.print ending.output
    unless ending.problem.isEmpty do IO.eprintln ending.problem
    return UInt32.ofNat ending.code
  | .ok (level, settings) =>
    if level.any CommandLine.Level.showsInfo then
      (Startup.serve settings).1.forM fun message => IO.println message
    return 0
