import Relabel.CommandLine.Run
import Std.Time.DateTime.Timestamp

/-!
# The command

The arguments are run on a copy of that part of the system's disk which they concern. Nothing but
a new file of settings is ever written.
-/

namespace Relabel

def Stamps.ofMetadata (m : IO.FS.Metadata) : Stamps :=
  ⟨m.modified.sec, m.accessed.sec, m.modified.sec, m.modified.sec, m.byteSize.toNat⟩

namespace Disk

/-- Copies what the pieces of a path lead to, and the directories and links on the way. A link
that leads nowhere is copied as one to itself. -/
def copyFrom (disk : Disk) (links : Nat) (place : List Text) (pieces : List Text) : IO Disk :=
  match pieces with
  | [] => return disk
  | piece :: rest =>
    if Path.isIdle piece then disk.copyFrom links place rest
    else if piece = ['.', '.'] then disk.copyFrom links place.dropLast rest
    else do
      let next := place ++ [piece]
      let path := String.ofList ('/' :: Text.joinWith '/' next)
      let entry : IO.FS.DirEntry := ⟨String.ofList ('/' :: Text.joinWith '/' place),
        String.ofList piece⟩
      match ← entry.path.symlinkMetadata.toBaseIO with
      | .error _ => return disk
      | .ok m =>
        let add (node : Stamps → Node) : Disk :=
          (disk.change 0 next (·.or (some (node (.ofMetadata m))))).getD disk
        match m.type with
        | .dir => (add (.directory .nil)).copyFrom links next rest
        | .symlink =>
          match links, ← (IO.FS.realPath path).toBaseIO with
          | links + 1, .ok target =>
            let target := target.toString.toList
            (add (.link target)).copyFrom links [] (Text.pieces '/' target ++ rest)
          | _, _ => return add (.link piece)
        | .file =>
          match ← (IO.FS.readBinFile path).toBaseIO with
          | .ok content => return add (.file content)
          | .error _ => return add (.file .empty)
        | .other => return add (.file .empty)
termination_by (links, pieces.length)

def copy (disk : Disk) (path : Text) : IO Disk :=
  disk.copyFrom mostLinks (disk.startOf path).reverse (Text.pieces '/' path)

def copyBelow (disk : Disk) (path : Text) : Nat → IO Disk
  | 0 => return disk
  | depth + 1 => do
    if !disk.isDirectory path then return disk
    let entries ← (← IO.FS.realPath (String.ofList path)).readDir
    entries.foldlM (fun disk entry => do
      let below := Path.join path entry.fileName.toList
      let disk ← disk.copy below
      match ← entry.path.symlinkMetadata.toBaseIO with
      | .ok m => if m.type == .dir then disk.copyBelow below depth else return disk
      | .error _ => return disk) disk

def ofCurrentDirectory : IO Disk := do
  let current := (← IO.currentDir).toString.toList
  let names := (Text.pieces '/' current).filter fun piece => !Path.isIdle piece
  copy ⟨.directory .nil (.at 0), names⟩ current

end Disk

def deepest : Nat := 4096

def RenameRequest.copyConcerned (request : RenameRequest) (around : Surroundings) : IO Disk := do
  let disk ← request.rows.elim (pure around.disk) around.disk.copy
  let disk ← disk.copy request.path
  let settings := around.settings.toOption.getD Settings.default
  disk.copyBelow request.path (if (request.scanOptions settings).recursive then deepest else 1)

def environmentText (name : String) : IO (Option Text) :=
  return (← IO.getEnv name).map String.toList

def Surroundings.find (command : Option Command) : IO Surroundings := do
  let environment : Environment := ⟨← environmentText "HOME", ← environmentText "XDG_CONFIG_HOME"⟩
  let zone := ((← environmentText "TZ").bind Zone.read?).getD Zone.utc
  let now ← Std.Time.Timestamp.now
  let disk ← Disk.ofCurrentDirectory
  let disk ← (Settings.usualPath environment).toOption.elim (pure disk) disk.copy
  let moment := Moment.ofUnix zone now.toSecondsSinceUnixEpoch.val 0
  let around : Surroundings := ⟨⟨disk, zone, moment⟩, environment, none⟩
  match command with
  | some (.rename request) =>
    let disk ← request.copyConcerned around
    return { around with setting := { around.setting with disk } }
  | _ => return around

def Outcome.keepSettings (outcome : Outcome) (around : Surroundings) : IO Unit := do
  if let .ok path := Settings.usualPath around.environment then
    if let some content := outcome.disk.content? path then
      if !around.disk.holds path then
        IO.FS.createDirAll (String.ofList ((Path.parent? path).getD path))
        IO.FS.writeBinFile (String.ofList path) content

end Relabel

open Relabel in
def main (args : List String) : IO UInt32 := do
  let arguments := args.map String.toList
  let around ← Surroundings.find (CommandLine.command? arguments)
  let outcome := CommandLine.run around arguments
  outcome.keepSettings around
  IO.print (String.ofList outcome.output)
  if let some remark := outcome.remark then IO.eprintln (String.ofList remark)
  if let some message := outcome.error then IO.eprintln ("Error: " ++ String.ofList message)
  return UInt32.ofNat outcome.code
