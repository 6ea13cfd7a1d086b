import NetBridge.CommandLine.Help
import NetBridge.CommandLine.Run
import NetBridge.Ioctl.Host

namespace NetBridge

def errorNumber? : IO.Error → Option UInt32
  | .alreadyExists _ code _ => some code
  | .otherError code _ => some code
  | .resourceBusy code _ => some code
  | .resourceVanished code _ => some code
  | .unsupportedOperation code _ => some code
  | .hardwareFault code _ => some code
  | .unsatisfiedConstraints code _ => some code
  | .illegalOperation code _ => some code
  | .protocolError code _ => some code
  | .timeExpired code _ => some code
  | .interrupted _ code _ => some code
  | .noFileOrDirectory _ code _ => some code
  | .invalidArgument _ code _ => some code
  | .permissionDenied _ code _ => some code
  | .resourceExhausted _ code _ => some code
  | .inappropriateType _ code _ => some code
  | .noSuchThing _ code _ => some code
  | .unexpectedEof => none
  | .userError _ => none

/-- A number as it is handed over: as it is or negated, in 32 bits. -/
def errnoOfCode (code : UInt32) : Errno := ⟨code.toInt32.toInt.natAbs⟩

def readFile (path : String) : IO Config.FileContent := do
  match ← (IO.FS.readBinFile path).toBaseIO with
  | .ok bytes => return .ok bytes.toList
  | .error failure =>
    match errorNumber? failure with
    | some code => return .error (.errno (errnoOfCode code))
    | none => return .error (.described (toString failure))

/-- Runs the tool with its arguments and gives the exit code. -/
def runTool (args : List String) : IO UInt32 := do
  match CommandLine.parse args with
  | .error fault =>
    if fault.exitCode = 0 then IO.print (Output.instead fault)
    else IO.eprint (Output.instead fault)
    return UInt32.ofNat fault.exitCode
  | .ok line =>
    let content ← readFile line.config
    let environment ← IO.getEnv "RUST_LOG"
    let report := line.run Ioctl.Host.plane content environment .new
    IO.print report.stdout
    IO.eprint report.notes
    for entry in report.log do IO.eprintln entry
    IO.eprint report.failure
    return UInt32.ofNat report.exitCode

end NetBridge

def main (args : List String) : IO UInt32 := NetBridge.runTool args
