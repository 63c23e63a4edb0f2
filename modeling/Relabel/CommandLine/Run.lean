import Relabel.Batch.Run
import Relabel.Batch.Scan
import Relabel.CommandLine.Arguments
import Relabel.CommandLine.Report
import Relabel.Metadata.Disk
import Relabel.Settings.Store

/-!
# Running commands

A run previews new names: nothing is renamed. Switches and settings are taken together, a value on
the command line coming before one in the settings.
-/

namespace Relabel

structure Surroundings where
  setting : Setting
  environment : Environment
  tool : Option ExifTool

structure Outcome where
  code : Nat
  output : Text
  /-- What is told beside the output when nothing went wrong. -/
  remark : Option Text
  /-- What went wrong, in the words that come first. -/
  error : Option Text
  disk : Disk

def CommandLine.usage : Text :=
  "Usage: batch-renamer [OPTIONS] [PATH]\n       batch-renamer config <show|init>".toList

namespace Surroundings

def disk (around : Surroundings) : Disk := around.setting.disk

def done (around : Surroundings) (output : Text) : Outcome :=
  ⟨0, output, none, none, around.disk⟩

def refused (around : Surroundings) (message : Text) : Outcome :=
  ⟨1, [], none, some message, around.disk⟩

def misused (around : Surroundings) : Outcome := ⟨2, [], some CommandLine.usage, none, around.disk⟩

def settings (around : Surroundings) : Except Failure Settings := do
  Settings.load around.disk (← Settings.usualPath around.environment)

end Surroundings

namespace RenameRequest

def has (request : RenameRequest) (switch : Switch) : Bool := request.flags.contains switch

def mode (request : RenameRequest) (s : Settings) : FindMode :=
  ⟨request.has .ignoreCase || s.ignoreCase, request.has .stringMode⟩

def options (request : RenameRequest) (s : Settings) : RunOptions where
  chain := Chain.ofPairs request.finds request.replacements
  mode := request.mode s
  limit := request.replaceLimit.getD s.replaceLimit
  keepExtension := request.has .ignoreExtension || s.ignoreExtension
  sort := request.sort.or s.sort
  reverse := request.has .sortReverse || s.reverseSort

def scanOptions (request : RenameRequest) (s : Settings) : ScanOptions where
  root := request.path
  recursive := request.has .recursive || s.recursive
  includeHidden := request.has .hidden || s.includeHidden
  includeDirectories := request.has .includeDirectories || s.includeDirectories

def loadRows (request : RenameRequest) (disk : Disk) : Except Text RowTable :=
  match request.rows with
  | none => .ok .empty
  | some path =>
    (RowTable.load disk path).mapError fun _ => "failed to load --csv rows from ".toList ++ path

/-- The batch with its new names, or what is told first of what went wrong. The first find
argument also selects the entries. -/
def run (request : RenameRequest) (around : Surroundings) : Except Text (List Entry) := do
  if request.finds = [] ∧ request.replacements = [] then
    throw "at least one --find or --replace argument is required".toList
  let s ← around.settings.mapError Failure.message
  let options := request.options s
  let search ← (Pattern.compile options.mode (request.finds.headD [])).mapError
    fun cause => (RunError.pattern cause).message
  let entries ← (around.disk.scan (request.scanOptions s) search).mapError Failure.message
  let rows ← request.loadRows around.disk
  let source := MetadataSource.ofDisk around.disk around.setting.zone rows around.tool
  (((Batch.run around.setting source options entries).run).run []).1.mapError fun _ =>
    "failed to compute new names under ".toList ++ request.path

end RenameRequest

namespace Command

def showSettingsOutcome (around : Surroundings) : Outcome :=
  match around.settings, Settings.usualPath around.environment with
  | .ok s, .ok path =>
    around.done ("config file: ".toList ++ path ++ '\n' :: s.document ++ ['\n'])
  | .error cause, _ | _, .error cause => around.refused cause.message

def initSettingsOutcome (around : Surroundings) : Outcome :=
  match Settings.usualPath around.environment with
  | .error cause => around.refused cause.message
  | .ok path =>
    if around.disk.holds path then
      around.done ("config file already exists: ".toList ++ path ++ ['\n'])
    else
      match Settings.save around.disk around.setting.now.unix path Settings.default with
      | .error cause => around.refused cause.message
      | .ok disk => { around.done ("wrote default config: ".toList ++ path ++ ['\n']) with disk }

def outcome (around : Surroundings) : Command → Outcome
  | rename request =>
    match request.run around with
    | .error message => around.refused message
    | .ok entries =>
      match request.output with
      | .table =>
        { around.done (Report.table entries) with
          remark := some "dry run: no files were renamed.".toList }
      | .json => around.done (Report.json entries)
  | showSettings => showSettingsOutcome around
  | initSettings => initSettingsOutcome around
  | help => around.done (CommandLine.usage ++ ['\n'])

end Command

def CommandLine.run (around : Surroundings) (arguments : List Text) : Outcome :=
  match CommandLine.command? arguments with
  | some command => command.outcome around
  | none => around.misused

end Relabel
