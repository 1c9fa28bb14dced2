import IntegerEnum.CommandLine.Run

/-! # The program

Reads the command line and the document it names, and leaves what the run leaves. -/
set_option autoImplicit false

namespace IntegerEnum

/-- The text of a source, unless it is a file that is not there. -/
def Source.fetch : Source → IO (Option String)
  | .standardInput => do
    let input ← IO.getStdin
    return some (← input.readToEnd)
  | .file name => do
    try
      return some (← IO.FS.readFile (Path.ofText name).text)
    catch
      | .noFileOrDirectory .. => return none
      | problem => throw problem

def runWords (words : List String) : IO CommandResult :=
  match Invocation.read words with
  | .error result => return result
  | .ok i => return i.run (← i.source.fetch)

end IntegerEnum

def main (words : List String) : IO UInt32 := do
  let result ← IntegerEnum.runWords words
  IO.print result.stdout
  IO.eprint result.stderr
  return result.exitCode.toUInt32
