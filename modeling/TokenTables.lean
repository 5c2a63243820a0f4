import TokenTables.Main
import TokenTables.Tree.Edit
import TokenTables.Proofs.Keyword.Decoding
import TokenTables.Proofs.Command.Outcome
import TokenTables.Proofs.Generator.Agreement
import TokenTables.Proofs.Tree.Repetition
import TokenTables.Proofs.Generator.Repetition
import TokenTables.Proofs.Json.Reading
import TokenTables.Proofs.Settings.Spelling
import TokenTables.Proofs.Token.Reformatting
import TokenTables.Proofs.Opcode.Insertion
import TokenTables.Proofs.Json.Mapping
import TokenTables.Proofs.Settings.Fields
import TokenTables.Proofs.Settings.Schema
import TokenTables.Proofs.Settings.UnknownKeys
import TokenTables.Proofs.Token.Exclusions
import TokenTables.Proofs.CommandLine.Reading
import TokenTables.Proofs.Calendar.Stamp
import TokenTables.Proofs.Generator.Output
import TokenTables.Proofs.Generator.Errors
