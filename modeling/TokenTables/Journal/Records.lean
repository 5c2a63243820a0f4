import TokenTables.Error
import TokenTables.Generator
import TokenTables.Journal.Basic
import TokenTables.Settings.Parse

/-!
What the journal tells of a command: unknown keys of the settings, the reading of the header, every
token sighted in it, and how the output came to be written or not. The records of each stage are a
function of what the stage starts from and comes to.
-/

namespace TokenTables.Journal

def settingsSource : Text := "tokmap::settings"

def commandSource : Text := "tokmap::commands"

def runSource : Text := "tokmap::pipeline"

def headerSource : Text := "tokmap::extract"

def opcodeSource : Text := "tokmap::opcode"

def noticeRecord : Settings.Notice → Record
  | .unknownKey key => ⟨.warn, settingsSource, "unknown settings key `" ++ key ++ "`"⟩
  | .unknownRangeKey key => ⟨.warn, settingsSource, "unknown range key `" ++ key ++ "`"⟩

def sightingRecord : Token.Sighting → Record
  | .excluded token => ⟨.debug, headerSource, "excluding " ++ token⟩
  | .found token => ⟨.trace, headerSource, "found " ++ token⟩

def headerRecord (infile : Text) : Except Error Text → Record
  | .ok text =>
    ⟨.debug, headerSource, "read " ++ Text.decimal (Text.byteSize text) ++ " bytes from " ++ infile⟩
  | .error (.inputNotFound _) =>
    ⟨.error, headerSource, "token header " ++ infile ++ " was not found"⟩
  | .error _ => ⟨.error, headerSource, "token header " ++ infile ++ " could not be read"⟩

def overflowRecord (overflow : ValueRange.Overflow) : Record :=
  ⟨.error, opcodeSource, Text.decimal overflow.count ++ " opcodes requested but only " ++
    Text.decimal overflow.capacity ++ " are available"⟩

def ofReading (g : Generator) (infile : Text) (header : Except Error Text) : List Record :=
  [⟨.info, runSource, g.name ++ ": reading " ++ infile⟩, headerRecord infile header]

def ofMaking (exclude : Exclusions) (lines : List Text) (made : Except ValueRange.Overflow Artifact) :
    List Record :=
  (Token.sightings lines exclude).map sightingRecord ++
    match made with
    | .error overflow => [overflowRecord overflow]
    | .ok _ => []

def ofWriting (g : Generator) (outfile : Text) (artifact : Artifact) : Except Error Unit → List Record
  | .ok () =>
    [⟨.debug, runSource, "wrote " ++ Text.decimal (Text.byteSize artifact.text) ++ " bytes to " ++
      outfile⟩,
     ⟨.info, runSource, g.name ++ ": wrote " ++ Text.decimal artifact.count ++ " entries to " ++
      outfile⟩]
  | .error _ => [⟨.error, runSource, "could not write " ++ outfile⟩]

def ofSettings (json : Text) (settings : Except Error Settings) : List Record :=
  (Settings.notices json).map noticeRecord ++
    match settings with
    | .ok _ => []
    | .error e => [⟨.error, commandSource, e.message⟩]

end TokenTables.Journal
