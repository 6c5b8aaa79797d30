import ObjectAssembly.CommandLine.Program

/-!
# Main — the program

Reads the arguments and the environment, and writes what the command line makes of them.
-/

open ObjectAssembly in
def main (args : List String) : IO UInt32 := do
  let response := CommandLine.respond args (← IO.getEnv "RIGGING_LOG")
  (← IO.getStdout).putStr response.stdout
  (← IO.getStderr).putStr response.stderr
  return response.code.toUInt32
