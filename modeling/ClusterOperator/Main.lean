import ClusterOperator.Options

/-!
# The command line

Takes the settings from flags and from the environment, and says with which the
operator would run or why it would not. The exit code tells a refused command
line (2) from refused settings (1).
-/

open ClusterOperator

/-- The variables of the environment that stand for flags. -/
def readEnvironment : IO (List (String × String)) :=
  Options.Name.all.filterMapM fun name => do
    return (← IO.getEnv name.environmentName).map fun value => (name.environmentName, value)

/-- One flag on a line. -/
def flagLines : List String :=
  Options.Name.all.map fun name => "  --" ++ name.flag ++ " [env: " ++ name.environmentName ++ "]"

def stop (reason : Options.Stop) : IO UInt32 := do
  if reason.isRequested then
    IO.println reason.message
    if reason = .displayHelp then flagLines.forM fun line => IO.println line
    return 0
  IO.eprintln reason.message
  return 2

def main (arguments : List String) : IO UInt32 := do
  match Options.ofArguments arguments (← readEnvironment) with
  | .error reason => stop reason
  | .ok options =>
    match options.validate with
    | .error e =>
      IO.eprintln ("Error: " ++ e.message)
      return 1
    | .ok () =>
      IO.println ("API: " ++ options.apiUrl)
      IO.println ("logins: " ++ options.authUrl.getD options.apiUrl)
      IO.println ("namespace: " ++ options.watchNamespace.getD "all")
      IO.println ("health and metrics: " ++ options.healthBindAddress.text)
      return 0
