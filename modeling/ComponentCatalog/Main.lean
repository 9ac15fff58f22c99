import ComponentCatalog.CommandLine
import ComponentCatalog.Json.Read
import ComponentCatalog.Snapshot

namespace ComponentCatalog

def currentEnvironment : IO Environment :=
  Environment.names.filterMapM fun name => do
    return (← IO.getEnv name).map (name, ·)

def snapshotDisk? (text : String) : Option Disk :=
  match Json.read text.toList with
  | .ok v    => (Snapshot.ofJson? v).map Snapshot.disk
  | .error _ => none

def CommandLine.Report.print : CommandLine.Report → IO Unit
  | .failed e  => IO.eprintln ("error: " ++ e.message)
  | .note text => IO.eprintln text
  | .serve s   => IO.println s.url
  | .json v    => IO.println (v.render .indentedAscii)
  | .table title columns rows => do
    IO.println title
    (columns :: rows).forM fun row => IO.println ("\t".intercalate row)

end ComponentCatalog

-- The disk is seen as a snapshot that is read from standard input.
def main (args : List String) : IO UInt32 := do
  let text ← (← IO.getStdin).readToEnd
  match ComponentCatalog.snapshotDisk? text with
  | none   =>
    IO.eprintln "error: unreadable snapshot"
    return 1
  | some d =>
    match ComponentCatalog.CommandLine.main (← ComponentCatalog.currentEnvironment) d args with
    | .error e =>
      IO.eprintln ("error: " ++ e.message)
      return 1
    | .ok result =>
      result.reports.forM (·.print)
      return result.code.toUInt32
