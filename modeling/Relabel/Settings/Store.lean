import Relabel.Disk.Change
import Relabel.Settings.Basic
import Relabel.Text.Utf8

/-!
# Keeping settings

Settings are kept in a file, usually in the directory that the environment names for them. Without
a file the settings are the defaults.
-/

namespace Relabel

structure Environment where
  home : Option Text
  configHome : Option Text
deriving DecidableEq, Repr

namespace Settings

def directory? (environment : Environment) : Option Text :=
  let configHome := environment.configHome.filter Path.isRooted
  let all := configHome.or (environment.home.map fun home => Path.join home ".config".toList)
  all.map fun all => Path.join all "batch-renamer".toList

def path (directory : Text) : Text := Path.join directory "config.toml".toList

def usualPath (environment : Environment) : Except Failure Text :=
  match directory? environment with
  | some directory => .ok (path directory)
  | none => .error .noSettingsDirectory

def load (disk : Disk) (path : Text) : Except Failure Settings :=
  if !disk.holds path then .ok default
  else match (disk.content? path).bind Text.ofUtf8? with
    | none => .error (.unreadableSettings path)
    | some document =>
      match read? document with
      | some s => .ok s
      | none => .error (.malformedSettings path)

def save (disk : Disk) (time : Int) (path : Text) (s : Settings) : Except Failure Disk := do
  let directory := Path.parent? path
  let disk ← match directory with
    | none | some [] => .ok disk
    | some directory =>
      match disk.makeDirectories? time directory with
      | some disk => .ok disk
      | none => .error (.unmakableSettingsDirectory directory)
  match disk.write? time path (Text.toUtf8 s.document) with
  | some disk => .ok disk
  | none => .error (.unwritableSettings path)

end Settings

end Relabel
