import Relabel.Proofs.Checks
import Relabel.Proofs.Disk.Changing
import Relabel.Proofs.Settings.Document
import Relabel.Settings.Store

/-!
# Loading what has been saved

Settings that have been saved under a path are loaded from it, and they can be saved wherever a file
can be written, once the directories that are missing above it have been made (`load_save`).
-/

namespace Relabel.Settings

open Relabel.Path (IsFileName)

variable {disk disk' : Disk} {time : Int} {path dir : Text} {s : Settings}

theorem load_of_content? (hleast : leastLimit ≤ s.replaceLimit)
    (hgreatest : s.replaceLimit ≤ greatestLimit)
    (hcontent : disk.content? path = some (Text.toUtf8 s.document)) : load disk path = .ok s := by
  have hholds : disk.holds path = true := by
    rw [Disk.content?] at hcontent
    rw [Disk.holds]
    cases hnode : disk.node? path with
    | none => simp [hnode] at hcontent
    | some node => rfl
  simp [load, hholds, hcontent, Text.ofUtf8?_toUtf8, read?_document hleast hgreatest]

def withDirectories (disk : Disk) (time : Int) (path : Text) : Except Failure Disk :=
  match Path.parent? path with
  | none | some [] => .ok disk
  | some directory =>
    match disk.makeDirectories? time directory with
    | some disk => .ok disk
    | none => .error (.unmakableSettingsDirectory directory)

theorem save_eq (disk : Disk) (time : Int) (path : Text) (s : Settings) :
    save disk time path s = withDirectories disk time path >>= fun made =>
      match made.write? time path (Text.toUtf8 s.document) with
      | some written => .ok written
      | none => .error (.unwritableSettings path) := by
  unfold save withDirectories
  cases Path.parent? path with
  | none => rfl
  | some directory =>
    cases directory with
    | nil => rfl
    | cons c cs =>
      simp only
      cases disk.makeDirectories? time (c :: cs) <;> rfl

theorem save_eq_ok_iff : save disk time path s = .ok disk' ↔
    ∃ made, withDirectories disk time path = .ok made ∧
      made.write? time path (Text.toUtf8 s.document) = some disk' := by
  rw [save_eq, bind_eq_ok]
  refine exists_congr fun made => and_congr_right fun _ => ?_
  cases made.write? time path (Text.toUtf8 s.document) <;> simp

theorem withDirectories_of_made (hdir : Path.parent? path = some dir)
    (hmade : disk.makeDirectories? time dir = some made) :
    withDirectories disk time path = .ok made := by
  rw [withDirectories, hdir]
  cases dir with
  | nil =>
    -- Nothing has to be made for a path in the current directory.
    have hnone : disk.makeDirectories? time [] = some disk := rfl
    rw [Option.some.inj (hnone.symm.trans hmade)]
  | cons c cs => simp only [hmade]

/-- Settings that have been saved are loaded as they were, and wherever a file can be written they
can be saved. -/
theorem load_save (hleast : leastLimit ≤ s.replaceLimit)
    (hgreatest : s.replaceLimit ≤ greatestLimit) (disk : Disk) (time : Int) (path : Text) :
    (∀ disk', save disk time path s = .ok disk' → load disk' path = .ok s) ∧
      ((∀ name ∈ disk.current, IsFileName name) → disk.Writable path →
        ∃ disk', save disk time path s = .ok disk') := by
  constructor
  · intro disk' hsave
    obtain ⟨made, -, hwrite⟩ := save_eq_ok_iff.mp hsave
    obtain ⟨-, hcontent⟩ := Disk.content?_write? hwrite
    exact load_of_content? hleast hgreatest hcontent
  · intro hcurrent hwritable
    obtain ⟨dir, made, disk', hdir, hmade, hwrite⟩ :=
      hwritable.exists_write? hcurrent time (Text.toUtf8 s.document)
    exact ⟨disk', save_eq_ok_iff.mpr ⟨made, withDirectories_of_made hdir hmade, hwrite⟩⟩

def emptyDisk : Disk := ⟨.directory .nil (.at 0), []⟩

theorem emptyDisk_writable : emptyDisk.Writable "a/./b".toList :=
  .missing [] ["a".toList, ".".toList] "b".toList [] rfl .done rfl (by decide) ⟨rfl, by decide⟩
    fun first hfirst => by
      obtain rfl : "a".toList = first := Option.some.inj hfirst
      rfl

theorem load_save_emptyDisk :
    ∃ disk', save emptyDisk 0 "a/./b".toList
        { default with replaceLimit := leastLimit, sort := some .natural } = .ok disk' ∧
      load disk' "a/./b".toList =
        .ok { default with replaceLimit := leastLimit, sort := some .natural } := by
  -- The directory of the file is made; the least limit has to be read with its minus sign.
  obtain ⟨hload, hsave⟩ :=
    load_save (s := { default with replaceLimit := leastLimit, sort := some .natural })
      (by decide) (by decide) emptyDisk 0 "a/./b".toList
  obtain ⟨disk', hsaved⟩ := hsave (by simp [emptyDisk]) emptyDisk_writable
  exact ⟨disk', hsaved, hload disk' hsaved⟩

end Relabel.Settings
