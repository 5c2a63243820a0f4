import Std.Time.Zoned
import TokenTables.Journal.Account

/-!
The executable. It is built once for each generator, and the name it is called by says which one runs.
Here stand only the calls to the system. Their order, what becomes of their answers, and every text come
from the library. The runtime cannot ask for a file's permission bits: to it no path leads to a mode, and
so a file that is replaced gets those of a new one.
-/

namespace TokenTables.Program

def calledGenerator : IO Generator := do
  let name := ((← IO.appPath).fileName.getD "").toList
  return if name = Generator.opcode.programName then .opcode else .keyword

def currentInstant : IO Instant := do
  let now ← Std.Time.Timestamp.now
  let rules ← Std.Time.Database.defaultGetLocalZoneRules
  let offset := (rules.findLocalTimeTypeForTimestamp now).getTimeZone.offset
  return ⟨now.toSecondsSinceUnixEpoch.val, 0, offset.second.val⟩

def causeText : IO.Error → Text
  | .alreadyExists _ code details | .inappropriateType _ code details
  | .invalidArgument _ code details | .noSuchThing _ code details
  | .permissionDenied _ code details | .resourceExhausted _ code details
  | .noFileOrDirectory _ code details | .interrupted _ code details
  | .otherError code details | .resourceBusy code details | .resourceVanished code details
  | .unsupportedOperation code details | .hardwareFault code details
  | .unsatisfiedConstraints code details | .illegalOperation code details
  | .protocolError code details | .timeExpired code details =>
    details.toList ++ " (os error " ++ Text.decimal code.toNat ++ ")"
  | e => e.toString.toList

def readHeaderFile (path : Text) : IO (Except Error Text) := do
  match ← (IO.FS.readBinFile (String.ofList path)).toBaseIO with
  | .ok bytes =>
    match Text.ofUtf8? bytes with
    | some text => return .ok text
    | none => return .error (.inputUnreadable path FileFault.notText.message)
  | .error (.noFileOrDirectory _ _ _) => return .error (.inputNotFound path)
  | .error e => return .error (.inputUnreadable path (causeText e))

structure TemporaryFile where
  name : String
  handle : IO.FS.Handle

def fileCalls : FileCalls IO TemporaryFile where
  modeAt? _ := return none
  create path _ := do
    let number := Text.decimal (← IO.rand 100000 999999)
    let name := String.ofList (Path.parent path ++ "/.tmp" ++ number)
    return ⟨name, ← IO.FS.Handle.mk name .writeNew⟩
  write temporary bytes := temporary.handle.write bytes
  flush temporary := temporary.handle.flush
  rename temporary path := IO.FS.rename temporary.name (String.ofList path)
  remove temporary := IO.FS.removeFile temporary.name
  -- Without a mode to restore this call is never made.
  setMode _ _ := return ()

def writeOutputFile (path text : Text) : IO (Except Error Unit) := do
  match ← (fileCalls.writeWhole path (Text.utf8 text)).toBaseIO with
  | .ok () => return .ok ()
  | .error e => return .error (.outputUnwritable path (causeText e))

def surroundings (filter : Journal.Filter) : Surroundings IO where
  header := readHeaderFile
  writeArtifact := writeOutputFile
  now := currentInstant
  tell records := do
    IO.eprint (String.ofList (Journal.lines filter (← currentInstant).journalStamp records))

def run (args : List Text) : IO UInt32 := do
  let g ← calledGenerator
  let (filter, warnings) := Journal.Filter.orUsual ((← IO.getEnv "RUST_LOG").map String.toList)
  IO.eprint (String.ofList warnings.flatten)
  let result ← g.commandIn (surroundings filter) args
  IO.print (String.ofList (g.standardOutput result))
  IO.eprint (String.ofList (g.complaint result))
  return UInt32.ofNat (Generator.exitCode result)

end TokenTables.Program

def main (args : List String) : IO UInt32 := TokenTables.Program.run (args.map String.toList)
