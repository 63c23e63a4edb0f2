import Relabel.Template.Form

/-!
# Spelling variables

How the form of a variable is written, with the braces around it.
-/

namespace Relabel

def SkipForm.spelling (f : SkipForm) : Text :=
  f.blanks ++ f.first ++
    match f.second with
    | some second => '-' :: second
    | none => []

def spellGroup : Option Text → Text
  | some digits => '$' :: digits
  | none => []

def IndexForm.spelling (f : IndexForm) : Text :=
  spellGroup f.group ++ f.start ++ '%' :: f.width ++ 'd' :: f.system.label ++ f.step ++
    match f.skip with
    | [] => []
    | entries => '<' :: Text.joinWith ';' (entries.map SkipForm.spelling) ++ ['>']

namespace Form

/-- The field of a transform, where there is one. -/
def transformFields : Option Transform → List Text
  | some t => [t.label]
  | none => []

def fields : Form → List Text
  | stem t => "f".toList :: transformFields t
  | extension t => "ext".toList :: transformFields t
  | parent levels t => (levels ++ ['p']) :: transformFields t
  | picture short item field t =>
    (if short then "x".toList else "exif".toList) :: item.label ::
      (field.map DateField.label).toList ++ transformFields t
  | index f => [f.spelling]
  | song tag t => "id3".toList :: tag.label :: transformFields t
  | digest algorithm t => "hash".toList :: algorithm.label :: transformFields t
  | time item field t => item.label :: field.label :: transformFields t
  | exifTool tag t => "xt".toList :: tag :: transformFields t
  | capture group (.text t) => [spellGroup group, t.label]
  | capture group (.date field) => [spellGroup group, "dt".toList, field.label]
  | column digits t => "csv".toList :: digits :: transformFields t

def body (f : Form) : Text := Text.joinWith '.' f.fields

def spelling (f : Form) : Text := '{' :: f.body ++ ['}']

end Form

end Relabel
