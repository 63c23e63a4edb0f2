import Relabel.Proofs.Template.IndexForms

/-!
# Forms and their spellings

A reader gives back just the forms that are spelled as the text is, so a form and its spelling tell
the same: `Form.readAs?_eq_some_iff`. The first field of a spelling tells of which kind it is, so no
text spells forms of two kinds, and it alone may have a dollar sign, in front of a group.
-/

namespace Relabel

open Text

/-- The texts in the form are what the grammar of its kind admits. -/
def Form.WellFormed : Form → Prop
  | stem _ | extension _ | song .. | digest .. | time .. => True
  | parent levels _ => isDigits levels
  | picture _ item field _ => item = .captureDate ↔ field.isSome
  | index f => f.WellFormed
  | exifTool tag _ => tag ≠ [] ∧ tag.all isTagCharacter
  | capture group _ => ∀ digits ∈ group, IsNumeral digits
  | column digits _ => IsNumeral digits

-- ---------------------------------------------------------------------------
-- Labels
-- ---------------------------------------------------------------------------

theorem find?_label_iff {all : List α} {label : α → Text}
    (hall : ∀ a, all.find? (label · = label a) = some a) :
    all.find? (label · = text) = some a ↔ label a = text := by
  constructor
  · intro h
    simpa using List.find?_some h
  · rintro rfl
    exact hall a

theorem Transform.ofLabel?_eq_some_iff {t : Transform} :
    Transform.ofLabel? text = some t ↔ t.label = text :=
  find?_label_iff Transform.ofLabel?_label

theorem DateField.ofLabel?_eq_some_iff {field : DateField} :
    DateField.ofLabel? text = some field ↔ field.label = text :=
  find?_label_iff DateField.ofLabel?_label

theorem PictureAttribute.ofLabel?_eq_some_iff {item : PictureAttribute} :
    PictureAttribute.ofLabel? text = some item ↔ item.label = text :=
  find?_label_iff PictureAttribute.ofLabel?_label

theorem SongTag.ofLabel?_eq_some_iff {tag : SongTag} :
    SongTag.ofLabel? text = some tag ↔ tag.label = text :=
  find?_label_iff SongTag.ofLabel?_label

theorem DigestAlgorithm.ofLabel?_eq_some_iff {algorithm : DigestAlgorithm} :
    DigestAlgorithm.ofLabel? text = some algorithm ↔ algorithm.label = text :=
  find?_label_iff DigestAlgorithm.ofLabel?_label

theorem TimeAttribute.ofLabel?_eq_some_iff {item : TimeAttribute} :
    TimeAttribute.ofLabel? text = some item ↔ item.label = text :=
  find?_label_iff TimeAttribute.ofLabel?_label

-- ---------------------------------------------------------------------------
-- Dotted forms
-- ---------------------------------------------------------------------------

namespace Form

theorem transform?_eq_some_iff {fields : List Text} {t : Option Transform} :
    transform? fields = some t ↔ transformFields t = fields := by
  unfold transform?
  split
  case h_1 => cases t <;> simp [transformFields]
  case h_2 label => cases t <;> simp [transformFields, Transform.ofLabel?_eq_some_iff]
  case h_3 hnil hone =>
    cases t with
    | none => simpa [transformFields] using Ne.symm hnil
    | some t => simpa [transformFields] using fun h => hone _ h.symm

@[simp] theorem transform?_transformFields (t : Option Transform) :
    transform? (transformFields t) = some t :=
  transform?_eq_some_iff.mpr rfl

theorem map_transform?_eq_some_iff {make : Option Transform → Form} :
    (transform? rest).map make = some f ↔ ∃ t, transformFields t = rest ∧ make t = f := by
  simp only [Option.map_eq_some_iff, transform?_eq_some_iff]

private theorem readStem?_eq_some_iff {fields : List Text} {f : Form} :
    readStem? fields = some f ↔ f.kind = .stem ∧ f.WellFormed ∧ f.fields = fields := by
  constructor
  · intro h
    unfold readStem? at h
    split at h
    case h_2 => cases h
    case h_1 name rest =>
      split at h
      case isFalse => cases h
      case isTrue hname =>
        obtain ⟨t, rfl, rfl⟩ := map_transform?_eq_some_iff.mp h
        exact ⟨rfl, trivial, by rw [fields, hname]⟩
  · rintro ⟨hkind, -, rfl⟩
    cases f with
    | stem t => simp [readStem?, fields]
    | _ => cases hkind

private theorem readExtension?_eq_some_iff {fields : List Text} {f : Form} :
    readExtension? fields = some f ↔ f.kind = .extension ∧ f.WellFormed ∧ f.fields = fields := by
  constructor
  · intro h
    unfold readExtension? at h
    split at h
    case h_2 => cases h
    case h_1 name rest =>
      split at h
      case isFalse => cases h
      case isTrue hname =>
        obtain ⟨t, rfl, rfl⟩ := map_transform?_eq_some_iff.mp h
        exact ⟨rfl, trivial, by rw [fields, hname]⟩
  · rintro ⟨hkind, -, rfl⟩
    cases f with
    | extension t => simp [readExtension?, fields]
    | _ => cases hkind

private theorem readParent?_eq_some_iff {fields : List Text} {f : Form} :
    readParent? fields = some f ↔ f.kind = .parent ∧ f.WellFormed ∧ f.fields = fields := by
  constructor
  · intro h
    unfold readParent? at h
    split at h
    case h_2 => cases h
    case h_1 name rest =>
      split at h
      case isFalse => cases h
      case isTrue hname =>
        obtain ⟨t, rfl, rfl⟩ := map_transform?_eq_some_iff.mp h
        exact ⟨rfl, hname.2, by rw [fields, List.dropLast_append_getLast? 'p' hname.1]⟩
  · rintro ⟨hkind, hwell, rfl⟩
    cases f with
    | parent levels t =>
      have hlevels : isDigits levels = true := hwell
      simp [readParent?, fields, hlevels]
    | _ => cases hkind

private theorem readPictureFields?_eq_some_iff {short : Bool} {rest : List Text} {f : Form} :
    readPictureFields? short rest = some f ↔ ∃ item field t, f = .picture short item field t ∧
      f.WellFormed ∧
      item.label :: ((field.map DateField.label).toList ++ transformFields t) = rest := by
  constructor
  · intro h
    unfold readPictureFields? at h
    split at h
    case h_2 => cases h
    case h_1 label rest =>
      obtain ⟨item, hitem, h⟩ := Option.bind_eq_some_iff.mp h
      rw [← PictureAttribute.ofLabel?_eq_some_iff.mp hitem]
      split at h
      case isFalse hdate =>
        obtain ⟨t, rfl, rfl⟩ := map_transform?_eq_some_iff.mp h
        exact ⟨item, none, t, rfl, by simpa [WellFormed] using hdate, rfl⟩
      case isTrue hdate =>
        split at h
        case h_2 => cases h
        case h_1 label' rest' =>
          obtain ⟨field, hfield, h⟩ := Option.bind_eq_some_iff.mp h
          obtain ⟨t, rfl, rfl⟩ := map_transform?_eq_some_iff.mp h
          rw [← DateField.ofLabel?_eq_some_iff.mp hfield]
          exact ⟨item, some field, t, rfl, by simpa [WellFormed] using hdate, rfl⟩
  · rintro ⟨item, field, t, rfl, hwell, rfl⟩
    have hdate : item = .captureDate ↔ field.isSome := hwell
    cases field with
    | none =>
      have hne : item ≠ .captureDate := by simpa using hdate
      simp [readPictureFields?, PictureAttribute.ofLabel?_label, hne]
    | some field =>
      obtain rfl : item = .captureDate := by simpa using hdate
      simp [readPictureFields?, PictureAttribute.ofLabel?_label, DateField.ofLabel?_label]

private theorem readPicture?_eq_some_iff {fields : List Text} {f : Form} :
    readPicture? fields = some f ↔ f.kind = .picture ∧ f.WellFormed ∧ f.fields = fields := by
  constructor
  · intro h
    unfold readPicture? at h
    split at h
    case h_2 => cases h
    case h_1 name rest =>
      split at h
      case isTrue hname =>
        obtain ⟨item, field, t, rfl, hwell, rfl⟩ := readPictureFields?_eq_some_iff.mp h
        exact ⟨rfl, hwell, by rw [hname]; rfl⟩
      case isFalse =>
        split at h
        case isTrue hname =>
          obtain ⟨item, field, t, rfl, hwell, rfl⟩ := readPictureFields?_eq_some_iff.mp h
          exact ⟨rfl, hwell, by rw [hname]; rfl⟩
        case isFalse => cases h
  · rintro ⟨hkind, hwell, rfl⟩
    cases f with
    | picture short item field t =>
      have hfields := readPictureFields?_eq_some_iff.mpr
        ⟨item, field, t, @rfl _ (picture short item field t), hwell, rfl⟩
      cases short <;> simpa [readPicture?, fields] using hfields
    | _ => cases hkind

private theorem readSong?_eq_some_iff {fields : List Text} {f : Form} :
    readSong? fields = some f ↔ f.kind = .song ∧ f.WellFormed ∧ f.fields = fields := by
  constructor
  · intro h
    unfold readSong? at h
    split at h
    case h_2 => cases h
    case h_1 name label rest =>
      split at h
      case isFalse => cases h
      case isTrue hname =>
        obtain ⟨tag, htag, h⟩ := Option.bind_eq_some_iff.mp h
        obtain ⟨t, rfl, rfl⟩ := map_transform?_eq_some_iff.mp h
        exact ⟨rfl, trivial, by rw [fields, hname, SongTag.ofLabel?_eq_some_iff.mp htag]⟩
  · rintro ⟨hkind, -, rfl⟩
    cases f with
    | song tag t => simp [readSong?, fields, SongTag.ofLabel?_label]
    | _ => cases hkind

private theorem readDigest?_eq_some_iff {fields : List Text} {f : Form} :
    readDigest? fields = some f ↔ f.kind = .digest ∧ f.WellFormed ∧ f.fields = fields := by
  constructor
  · intro h
    unfold readDigest? at h
    split at h
    case h_2 => cases h
    case h_1 name label rest =>
      split at h
      case isFalse => cases h
      case isTrue hname =>
        obtain ⟨algorithm, halgorithm, h⟩ := Option.bind_eq_some_iff.mp h
        obtain ⟨t, rfl, rfl⟩ := map_transform?_eq_some_iff.mp h
        exact ⟨rfl, trivial,
          by rw [fields, hname, DigestAlgorithm.ofLabel?_eq_some_iff.mp halgorithm]⟩
  · rintro ⟨hkind, -, rfl⟩
    cases f with
    | digest algorithm t => simp [readDigest?, fields, DigestAlgorithm.ofLabel?_label]
    | _ => cases hkind

private theorem readTime?_eq_some_iff {fields : List Text} {f : Form} :
    readTime? fields = some f ↔ f.kind = .time ∧ f.WellFormed ∧ f.fields = fields := by
  constructor
  · intro h
    unfold readTime? at h
    split at h
    case h_2 => cases h
    case h_1 name label rest =>
      obtain ⟨item, hitem, h⟩ := Option.bind_eq_some_iff.mp h
      obtain ⟨field, hfield, h⟩ := Option.bind_eq_some_iff.mp h
      obtain ⟨t, rfl, rfl⟩ := map_transform?_eq_some_iff.mp h
      exact ⟨rfl, trivial, by rw [fields, TimeAttribute.ofLabel?_eq_some_iff.mp hitem,
        DateField.ofLabel?_eq_some_iff.mp hfield]⟩
  · rintro ⟨hkind, -, rfl⟩
    cases f with
    | time item field t =>
      simp [readTime?, fields, TimeAttribute.ofLabel?_label, DateField.ofLabel?_label]
    | _ => cases hkind

private theorem readExifTool?_eq_some_iff {fields : List Text} {f : Form} :
    readExifTool? fields = some f ↔ f.kind = .exifTool ∧ f.WellFormed ∧ f.fields = fields := by
  constructor
  · intro h
    unfold readExifTool? at h
    split at h
    case h_2 => cases h
    case h_1 name tag rest =>
      split at h
      case isFalse => cases h
      case isTrue hname =>
        obtain ⟨t, rfl, rfl⟩ := map_transform?_eq_some_iff.mp h
        exact ⟨rfl, hname.2, by rw [fields, hname.1]⟩
  · rintro ⟨hkind, hwell, rfl⟩
    cases f with
    | exifTool tag t =>
      rw [fields, readExifTool?, if_pos ⟨rfl, hwell⟩]
      exact map_transform?_eq_some_iff.mpr ⟨t, rfl, rfl⟩
    | _ => cases hkind

private theorem readGroup?_eq_some_iff : readGroup? text = some digits ↔
    IsNumeral digits ∧ spellGroup (some digits) = text := by
  constructor
  · intro h
    unfold readGroup? at h
    split at h
    case h_2 => cases h
    case h_1 =>
      split at h
      case isFalse => cases h
      case isTrue hdigits =>
        obtain rfl := Option.some.inj h
        exact ⟨hdigits, rfl⟩
  · rintro ⟨hdigits, rfl⟩
    exact if_pos hdigits

private theorem readScope?_eq_some_iff {group : Option Text} : readScope? name = some group ↔
    (∀ digits ∈ group, IsNumeral digits) ∧ spellGroup group = name := by
  unfold readScope?
  split
  case isTrue hname =>
    subst hname
    cases group <;> simp [spellGroup]
  case isFalse hname =>
    cases group with
    | none => simpa [spellGroup] using Ne.symm hname
    | some digits => simp [readGroup?_eq_some_iff]

private theorem readCapture?_eq_some_iff {fields : List Text} {f : Form} :
    readCapture? fields = some f ↔ f.kind = .capture ∧ f.WellFormed ∧ f.fields = fields := by
  constructor
  · intro h
    unfold readCapture? at h
    split at h
    case h_1 name label =>
      obtain ⟨group, hgroup, h⟩ := Option.bind_eq_some_iff.mp h
      obtain ⟨t, ht, h⟩ := Option.bind_eq_some_iff.mp h
      obtain rfl := Option.some.inj h
      obtain ⟨hdigits, rfl⟩ := readScope?_eq_some_iff.mp hgroup
      exact ⟨rfl, hdigits, by rw [fields, Transform.ofLabel?_eq_some_iff.mp ht]⟩
    case h_2 name label label' =>
      split at h
      case isFalse => cases h
      case isTrue hdate =>
        obtain ⟨group, hgroup, h⟩ := Option.bind_eq_some_iff.mp h
        obtain ⟨field, hfield, h⟩ := Option.bind_eq_some_iff.mp h
        obtain rfl := Option.some.inj h
        obtain ⟨hdigits, rfl⟩ := readScope?_eq_some_iff.mp hgroup
        exact ⟨rfl, hdigits, by rw [fields, hdate, DateField.ofLabel?_eq_some_iff.mp hfield]⟩
    case h_3 => cases h
  · rintro ⟨hkind, hwell, rfl⟩
    cases f with
    | capture group format =>
      have hscope := readScope?_eq_some_iff.mpr ⟨hwell, rfl⟩
      cases format with
      | text t => simp [readCapture?, fields, hscope, Transform.ofLabel?_label]
      | date field => simp [readCapture?, fields, hscope, DateField.ofLabel?_label]
    | _ => cases hkind

private theorem readColumn?_eq_some_iff {fields : List Text} {f : Form} :
    readColumn? fields = some f ↔ f.kind = .column ∧ f.WellFormed ∧ f.fields = fields := by
  constructor
  · intro h
    unfold readColumn? at h
    split at h
    case h_2 => cases h
    case h_1 name digits rest =>
      split at h
      case isFalse => cases h
      case isTrue hname =>
        obtain ⟨t, rfl, rfl⟩ := map_transform?_eq_some_iff.mp h
        exact ⟨rfl, hname.2, by rw [fields, hname.1]⟩
  · rintro ⟨hkind, hwell, rfl⟩
    cases f with
    | column digits t =>
      rw [fields, readColumn?, if_pos ⟨rfl, hwell⟩]
      exact map_transform?_eq_some_iff.mpr ⟨t, rfl, rfl⟩
    | _ => cases hkind

-- ---------------------------------------------------------------------------
-- All forms
-- ---------------------------------------------------------------------------

def isFieldCharacter (c : Char) : Bool :=
  isTagCharacter c || isDecimalDigit c || isBlank c || "%<>;-".toList.contains c

def Plain (text : Text) : Prop := text.all isFieldCharacter = true

instance (text : Text) : Decidable (Plain text) := by
  unfold Plain
  infer_instance

theorem plain_append {front back : Text} : Plain (front ++ back) ↔ Plain front ∧ Plain back := by
  simp [Plain]

theorem plain_cons {c : Char} (hc : isFieldCharacter c = true) (h : Plain text) :
    Plain (c :: text) := by
  simpa [Plain, hc] using h

theorem plain_of_isDigits (h : isDigits text = true) : Plain text :=
  List.all_eq_true.mpr fun c hc => by simp [isFieldCharacter, isDecimalDigit_of_mem h hc]

private theorem plain_transformFields (t : Option Transform) : ∀ field ∈ transformFields t, Plain field := by
  cases t with
  | none => simp [transformFields]
  | some t => cases t <;> decide

private theorem plain_dateField (field : DateField) : Plain field.label := by cases field <;> decide

private theorem plain_skipForm {f : SkipForm} (h : f.WellFormed) : Plain f.spelling := by
  have hblanks : Plain f.blanks := List.all_eq_true.mpr fun c hc => by
    simp [isFieldCharacter, List.all_eq_true.mp h.blanks c hc]
  refine plain_append.mpr ⟨plain_append.mpr ⟨hblanks, plain_of_isDigits h.first.2⟩, ?_⟩
  cases hsecond : f.second with
  | none => exact rfl
  | some second => exact plain_cons (by decide) (plain_of_isDigits (h.second second hsecond).2)

theorem plain_joinWith {separator : Char} (hseparator : isFieldCharacter separator = true)
    {names : List Text} (h : ∀ name ∈ names, Plain name) : Plain (joinWith separator names) := by
  induction names with
  | nil => exact rfl
  | cons name names ih =>
    obtain ⟨hname, hnames⟩ := List.forall_mem_cons.mp h
    cases names with
    | nil => exact hname
    | cons next others => exact plain_append.mpr ⟨hname, plain_cons hseparator (ih hnames)⟩

private theorem plain_listSpelling {entries : List SkipForm} (h : SkipForm.ListWellFormed entries) :
    Plain (SkipForm.listSpelling entries) := by
  cases entries with
  | nil => exact rfl
  | cons first others =>
    have hjoin : Plain (joinWith ';' ((first :: others).map SkipForm.spelling)) := by
      refine plain_joinWith (by decide) fun name hname => ?_
      obtain ⟨entry, hentry, rfl⟩ := List.mem_map.mp hname
      exact plain_skipForm (h.1 entry hentry)
    exact plain_append.mpr ⟨plain_cons (by decide) hjoin, by decide⟩

def PlainBehindSign (name : Text) : Prop :=
  ∃ sign rest, name = sign ++ rest ∧ (sign = [] ∨ sign = ['$']) ∧ Plain rest

theorem Plain.behindSign (h : Plain name) : PlainBehindSign name := ⟨[], name, rfl, .inl rfl, h⟩

theorem plain_spellGroup_append {group : Option Text} (h : ∀ digits ∈ group, IsNumeral digits)
    (hrest : Plain rest) : PlainBehindSign (spellGroup group ++ rest) := by
  cases group with
  | none => exact hrest.behindSign
  | some digits =>
    exact ⟨['$'], digits ++ rest, rfl, .inr rfl,
      plain_append.mpr ⟨plain_of_isDigits (h digits rfl).2, hrest⟩⟩

private theorem plain_index {f : IndexForm} (h : f.WellFormed) : PlainBehindSign f.spelling := by
  have hsystem : Plain f.system.label := by cases f.system <;> decide
  have hstep := plain_append.mpr ⟨plain_of_isDigits h.step, plain_listSpelling h.skip⟩
  have hwidth := plain_append.mpr ⟨plain_of_isDigits h.width,
    plain_cons (c := 'd') (by decide) (plain_append.mpr ⟨hsystem, hstep⟩)⟩
  rw [IndexForm.spelling_eq, List.append_assoc]
  exact plain_spellGroup_append (fun digits hdigits => (h.group digits hdigits).1)
    (plain_append.mpr ⟨plain_of_isDigits h.start, plain_cons (by decide) hwidth⟩)

theorem fields_plain {f : Form} (h : f.WellFormed) :
    ∃ name rest, f.fields = name :: rest ∧ PlainBehindSign name ∧ ∀ field ∈ rest, Plain field := by
  have hfirst (name : Text) (hname : Plain name) := hname.behindSign
  cases f with
  | stem t => exact ⟨_, _, rfl, hfirst _ (by decide), plain_transformFields t⟩
  | extension t => exact ⟨_, _, rfl, hfirst _ (by decide), plain_transformFields t⟩
  | parent levels t =>
    have hname := plain_append.mpr ⟨plain_of_isDigits h, show Plain ['p'] by decide⟩
    exact ⟨_, _, rfl, hfirst _ hname, plain_transformFields t⟩
  | picture short item field t =>
    have hitem : Plain item.label := by cases item <;> decide
    refine ⟨_, _, rfl, hfirst _ (by cases short <;> decide), fun label hlabel => ?_⟩
    rcases List.mem_append.mp hlabel with hlabel | hlabel
    · rcases List.mem_cons.mp hlabel with rfl | hlabel
      · exact hitem
      · obtain ⟨field, -, rfl⟩ := Option.map_eq_some_iff.mp (Option.mem_toList.mp hlabel)
        exact plain_dateField field
    · exact plain_transformFields t label hlabel
  | index f => exact ⟨_, _, rfl, plain_index h, by simp⟩
  | song tag t =>
    have htag : Plain tag.label := by cases tag <;> decide
    exact ⟨_, _, rfl, hfirst _ (by decide), List.forall_mem_cons.mpr ⟨htag, plain_transformFields t⟩⟩
  | digest algorithm t =>
    have halgorithm : Plain algorithm.label := by cases algorithm <;> decide
    exact ⟨_, _, rfl, hfirst _ (by decide),
      List.forall_mem_cons.mpr ⟨halgorithm, plain_transformFields t⟩⟩
  | time item field t =>
    have hitem : Plain item.label := by cases item <;> decide
    exact ⟨_, _, rfl, hfirst _ hitem,
      List.forall_mem_cons.mpr ⟨plain_dateField field, plain_transformFields t⟩⟩
  | exifTool tag t =>
    have htag : Plain tag := List.all_eq_true.mpr fun c hc => by
      simp [isFieldCharacter, List.all_eq_true.mp h.2 c hc]
    exact ⟨_, _, rfl, hfirst _ (by decide), List.forall_mem_cons.mpr ⟨htag, plain_transformFields t⟩⟩
  | capture group format =>
    have hgroup := plain_spellGroup_append h (show Plain [] from rfl)
    rw [List.append_nil] at hgroup
    cases format with
    | text t => exact ⟨_, _, rfl, hgroup, plain_transformFields (some t)⟩
    | date field => exact ⟨_, _, rfl, hgroup, by simpa using ⟨by decide, plain_dateField field⟩⟩
  | column digits t =>
    exact ⟨_, _, rfl, hfirst _ (by decide),
      List.forall_mem_cons.mpr ⟨plain_of_isDigits h.2, plain_transformFields t⟩⟩

theorem fields_ne_nil (f : Form) : f.fields ≠ [] := by
  cases f with
  | capture group format => cases format <;> exact List.cons_ne_nil _ _
  | _ => exact List.cons_ne_nil _ _

theorem not_mem_of_plain (h : Plain text) (hc : isFieldCharacter c = false) : c ∉ text := fun hmem => by
  simp [List.all_eq_true.mp h c hmem] at hc

theorem not_mem_field {f : Form} (h : f.WellFormed) (hc : isFieldCharacter c = false) (hdollar : c ≠ '$') :
    ∀ field ∈ f.fields, c ∉ field := by
  obtain ⟨name, rest, hfields, ⟨sign, behind, rfl, hsign, hbehind⟩, hrest⟩ := fields_plain h
  have hnotMem : c ∉ sign := by rcases hsign with rfl | rfl <;> simp [hdollar]
  rw [hfields]
  refine List.forall_mem_cons.mpr ⟨?_, fun field hfield => not_mem_of_plain (hrest field hfield) hc⟩
  simpa using ⟨hnotMem, not_mem_of_plain hbehind hc⟩

theorem not_mem_body {f : Form} (h : f.WellFormed) (hc : isFieldCharacter c = false)
    (hdollar : c ≠ '$') (hdot : c ≠ '.') : c ∉ f.body :=
  not_mem_joinWith hdot (not_mem_field h hc hdollar)

theorem dollar_not_mem_tail_body {f : Form} (h : f.WellFormed) : '$' ∉ f.body.tail := by
  obtain ⟨name, rest, hfields, ⟨sign, behind, rfl, hsign, hbehind⟩, hrest⟩ := fields_plain h
  have hdollar : '$' ∉ joinWith '.' (behind :: rest) := by
    refine not_mem_joinWith (by decide) (List.forall_mem_cons.mpr ⟨?_, fun field hfield => ?_⟩)
    · exact not_mem_of_plain hbehind (by decide)
    · exact not_mem_of_plain (hrest field hfield) (by decide)
  have hbody : f.body = sign ++ joinWith '.' (behind :: rest) := by
    rw [Form.body, hfields]
    cases rest <;> simp [joinWith]
  rcases hsign with rfl | rfl
  · rw [hbody, List.nil_append]
    exact fun hmem => hdollar (List.mem_of_mem_tail hmem)
  · simpa [hbody] using hdollar

theorem fields_eq_pieces_iff {f : Form} {body : Text} (h : f.WellFormed) :
    f.fields = pieces '.' body ↔ f.body = body := by
  constructor
  · intro hfields
    rw [Form.body, hfields, joinWith_pieces]
  · rintro rfl
    exact (pieces_joinWith (fields_ne_nil f) (not_mem_field h (by decide) (by decide))).symm

/-- A body reads as the forms of a kind that are spelled like it, and as no others. -/
theorem readAs?_eq_some_iff {body : Text} {kind : VariableKind} {f : Form} :
    readAs? body kind = some f ↔ f.kind = kind ∧ f.WellFormed ∧ f.body = body := by
  have hbody : (f.kind = kind ∧ f.WellFormed ∧ f.fields = pieces '.' body) ↔
      f.kind = kind ∧ f.WellFormed ∧ f.body = body :=
    and_congr_right fun _ => and_congr_right fields_eq_pieces_iff
  cases kind with
  | stem => exact readStem?_eq_some_iff.trans hbody
  | extension => exact readExtension?_eq_some_iff.trans hbody
  | parent => exact readParent?_eq_some_iff.trans hbody
  | picture => exact readPicture?_eq_some_iff.trans hbody
  | index =>
    simp only [readAs?, Option.map_eq_some_iff, IndexForm.read?_eq_some_iff]
    constructor
    · rintro ⟨f, ⟨hwell, rfl⟩, rfl⟩
      exact ⟨rfl, hwell, rfl⟩
    · rintro ⟨hkind, hwell, rfl⟩
      cases f with
      | index f => exact ⟨f, ⟨hwell, rfl⟩, rfl⟩
      | _ => cases hkind
  | song => exact readSong?_eq_some_iff.trans hbody
  | digest => exact readDigest?_eq_some_iff.trans hbody
  | time => exact readTime?_eq_some_iff.trans hbody
  | exifTool => exact readExifTool?_eq_some_iff.trans hbody
  | capture => exact readCapture?_eq_some_iff.trans hbody
  | column => exact readColumn?_eq_some_iff.trans hbody

theorem dollar_not_mem_tail_of_readAs {body : Text} {kind : VariableKind} {f : Form}
    (h : readAs? body kind = some f) : '$' ∉ body.tail := by
  obtain ⟨-, hwell, rfl⟩ := readAs?_eq_some_iff.mp h
  exact dollar_not_mem_tail_body hwell

-- ---------------------------------------------------------------------------
-- One kind
-- ---------------------------------------------------------------------------

def kindOf (name : Text) : VariableKind :=
  if '%' ∈ name then .index
  else if name.getLast? = some 'p' then .parent
  else if name = [] ∨ name.head? = some '$' then .capture
  else if name = "f".toList then .stem
  else if name = "ext".toList then .extension
  else if name = "x".toList ∨ name = "exif".toList then .picture
  else if name = "id3".toList then .song
  else if name = "hash".toList then .digest
  else if name = "xt".toList then .exifTool
  else if name = "csv".toList then .column
  else .time

theorem kindOf_spellGroup {group : Option Text} (h : ∀ digits ∈ group, IsNumeral digits) :
    kindOf (spellGroup group) = .capture := by
  cases group with
  | none => decide
  | some digits =>
    have hdigits := h digits rfl
    have hpercent : '%' ∉ digits := not_mem_of_isDigits hdigits.2 (by decide)
    have hp : 'p' ∉ digits := not_mem_of_isDigits hdigits.2 (by decide)
    have hlast : ('$' :: digits).getLast? ≠ some 'p' := fun hlast => by
      simpa [hp] using List.mem_of_getLast? hlast
    simp [kindOf, spellGroup, hpercent, hlast]

theorem kindOf_head_fields {f : Form} (h : f.WellFormed) :
    ∃ name rest, f.fields = name :: rest ∧ kindOf name = f.kind := by
  cases f with
  | parent levels t =>
    have hlevels : '%' ∉ levels := not_mem_of_isDigits h (by decide)
    exact ⟨_, _, rfl, by simp [kindOf, hlevels, kind]⟩
  | picture short item field t => exact ⟨_, _, rfl, by cases short <;> rfl⟩
  | index f => exact ⟨_, _, rfl, by simp [kindOf, IndexForm.spelling_eq, kind]⟩
  | time item field t => exact ⟨_, _, rfl, by cases item <;> rfl⟩
  | capture group format =>
    have hname := kindOf_spellGroup h
    cases format <;> exact ⟨_, _, rfl, hname⟩
  | _ => exact ⟨_, _, rfl, rfl⟩

/-- No body reads as forms of two kinds. -/
theorem kind_unique {body : Text} {kind kind' : VariableKind} {f f' : Form}
    (h : readAs? body kind = some f) (h' : readAs? body kind' = some f') : kind = kind' := by
  obtain ⟨rfl, hwell, hbody⟩ := readAs?_eq_some_iff.mp h
  obtain ⟨rfl, hwell', hbody'⟩ := readAs?_eq_some_iff.mp h'
  obtain ⟨name, rest, hfields, hname⟩ := kindOf_head_fields hwell
  obtain ⟨name', rest', hfields', hname'⟩ := kindOf_head_fields hwell'
  have hpieces := (fields_eq_pieces_iff hwell).mpr hbody
  have hpieces' := (fields_eq_pieces_iff hwell').mpr hbody'
  obtain ⟨rfl, -⟩ := List.cons.inj (hfields.symm.trans (hpieces.trans (hpieces'.symm.trans hfields')))
  exact hname.symm.trans hname'

end Form

end Relabel
