import RowScan.CommandLine.Execution

/-!
The program: what an execution needs of the machine it runs on, and the printing of what it answers.
-/

namespace RowScan

namespace Machine

def ofCode (code : UInt32) (description : String) : IoFault :=
  match SystemFault.ofCode? code.toNat with
  | some fault => .system fault
  | none => .stated (SystemFault.wording description code.toNat)

def faultOf : IO.Error → IoFault
  | .alreadyExists _ code description | .otherError code description
  | .resourceBusy code description | .resourceVanished code description
  | .unsupportedOperation code description | .hardwareFault code description
  | .unsatisfiedConstraints code description | .illegalOperation code description
  | .protocolError code description | .timeExpired code description
  | .interrupted _ code description | .noFileOrDirectory _ code description
  | .invalidArgument _ code description | .permissionDenied _ code description
  | .resourceExhausted _ code description | .inappropriateType _ code description
  | .noSuchThing _ code description => ofCode code description
  | .unexpectedEof => .stated "failed to fill whole buffer"
  | .userError text => .stated text

def attempt (action : IO α) : IO (Except IoFault α) := do
  return (← action.toBaseIO).mapError faultOf

def letters : List Char := "abcdefghijklmnopqrstuvwxyz0123456789".toList

def temporaryPath (path : String) : IO String := do
  let random ← (List.range FileTree.temporaryLetters).mapM fun _ => do
    return letters.getD (← IO.rand 0 (letters.length - 1)) 'a'
  return Path.join (Path.parent path) (FileTree.temporaryStart ++ String.ofList random)

def moveInto (handle : IO.FS.Handle) (temporary path : String) (content : ByteArray) :
    IO (Except ReplaceFault Unit) := do
  match ← attempt (do handle.write content; handle.flush) with
  | .error fault => return .error (.fill (.io fault))
  | .ok () => return (← attempt (IO.FS.rename temporary path)).mapError .move

def replaceBy (temporary path : String) (content : ByteArray) : IO (Except ReplaceFault Unit) := do
  match ← attempt (IO.FS.Handle.mk temporary .writeNew) with
  | .error fault => return .error (.create temporary fault)
  | .ok handle =>
    let result ← moveInto handle temporary path content
    if result.isOk then return result
    discard (attempt (IO.FS.removeFile temporary))
    return result

end Machine

instance : Storage IO where
  read path := Machine.attempt (IO.FS.withFile path .read fun handle => handle.readBinToEnd)
  write path content := Machine.attempt (IO.FS.writeBinFile path content)
  replace path content := do
    Machine.replaceBy (← Machine.temporaryPath path) path content

def runProgram (arguments : List String) : IO UInt32 := do
  let start ← IO.monoNanosNow
  let environment ← Execution.variableNames.mapM fun name => do return (name, ← IO.getEnv name)
  let lookup := fun name => (environment.lookup name).join
  let execution : Execution ← execute lookup arguments
  let passed := (← IO.monoNanosNow) - start
  for event in execution.events do
    IO.eprint (event.shown (event.elapsed passed))
  IO.eprint execution.complaint
  IO.print execution.printed
  return execution.exitCode

end RowScan

def main (arguments : List String) : IO UInt32 := RowScan.runProgram arguments
