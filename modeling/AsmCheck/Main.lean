import AsmCheck.Command.Check

/-! The command line: read what is asked for, check it, print and exit. -/

set_option autoImplicit false

namespace AsmCheck.Command

/-- Open a file of the file system. Faults that the checker does not tell of are passed on. -/
def openPath (path : Text) : IO (Except FileFault ByteArray) := do
  try
    return .ok (← IO.FS.readBinFile path.render)
  catch
    | .noFileOrDirectory .. => return .error .missing
    | .inappropriateType .. => return .error .isFolder
    | error => throw error

def printOutput (output : Output) : IO UInt32 := do
  (← IO.getStdout).putStr output.stdout.render
  (← IO.getStderr).putStr output.stderr.render
  return UInt32.ofNat output.exit

/-- The homes that are known: the caller's own from the environment, those of others from the list of users. -/
def homes : IO (List (Text × Text)) := do
  let own := (← IO.getEnv "HOME").toList.map fun home => (([] : Text), Text.ofString home)
  let listed ← try IO.FS.lines "/etc/passwd" catch _ => pure #[]
  return own ++ listed.toList.filterMap fun line =>
    match Text.splitOn ':' (Text.ofString line) with
    | user :: _ :: _ :: _ :: _ :: home :: _ => some (user, home)
    | _ => none

/-- The working folder without its files, which are read where they are asked for. -/
def workingFolder : IO Folder := do
  return { location := Text.ofString (← IO.currentDir).toString, entries := [], homes := ← homes }

/-- The instruction set that is asked for, read from the file system. -/
def loadPlace (folder : Folder) : Place → IO (Except InstructionSet.LoadError InstructionSet)
  | .bundled => return .ok InstructionSet.bundled
  | .file path => match folder.reach path with
    | .error fault => return .error (.fault fault)
    | .ok found => do
      let path := Path.resolve folder.location found
      return InstructionSet.load path (← openPath path)

def checkFiles (options : Options) : IO (Except Fault Output) := do
  let source ← openPath (Path.tidy options.source)
  let folder ← workingFolder
  return check .utf8 options source (options.place.text folder) (← loadPlace folder options.place)

/-- What is said of a fault. -/
def faultText : Fault → String
  | .notUtf8 => "a file is not UTF-8 text"
  | .numeral => "a decimal numeral is too long"
  | .tooDeep => "a JSON text is nested too deeply"
  | .unencodable => "a text holds a surrogate that cannot be encoded"
  | .nulInPath => "a path holds a NUL character"
  | .nameTooLong => "a file name is too long"
  | .homeUnknown => "the home folder is not known"
  | .noThreshold => "no severity is given"
  | .noSuchFilter => "there is no such filter"

end AsmCheck.Command

open AsmCheck AsmCheck.Command in
def main (arguments : List String) : IO UInt32 := do
  match Options.parse (arguments.map Text.ofString) with
  | .error .help => do
    (← IO.getStdout).putStr usage.render
    return 0
  | .error .misuse => do
    (← IO.getStderr).putStr usage.render
    return 2
  | .ok options => match ← checkFiles options with
    | .ok output => printOutput output
    | .error fault => throw (IO.userError (faultText fault))
