import Relabel.Batch.Entry
import Relabel.Json.Value

/-!
# Reports

The outcome of a run as a table with a summary, or as JSON.
-/

namespace Relabel

namespace Entry

def tableLine (e : Entry) : Text := e.sourcePath ++ " -> ".toList ++ e.targetPath ++ ['\n']

def json (e : Entry) : Json :=
  .object (.ofList [
    ("source".toList, .text e.source),
    ("target".toList, .text e.target),
    ("base_dir".toList, .text e.baseDir),
    ("rel_target_path".toList, .text e.targetPath),
    ("is_dir".toList, .bool e.isDirectory),
    ("index".toList, .number (.whole e.position)),
    ("status".toList, .text e.status.label)])

end Entry

namespace Report

def summary (entries : List Entry) : Text :=
  let renamed := entries.countP Entry.isChanged
  "\nsummary: matched=".toList ++ Text.decimal entries.length ++
    " renamed=".toList ++ Text.decimal renamed ++
    " unchanged=".toList ++ Text.decimal (entries.length - renamed) ++ ['\n']

def table (entries : List Entry) : Text :=
  "source -> target\n".toList ++ entries.flatMap Entry.tableLine ++ summary entries

def json (entries : List Entry) : Text :=
  (Json.array (.ofList (entries.map Entry.json))).pretty 0 ++ ['\n']

end Report

end Relabel
