import Relabel.Pattern.Reader
import Relabel.Proofs.Pattern.Literal
import Relabel.Proofs.Pattern.Ways
import Relabel.Template.Form

/-!
# The grammar of variables

Every kind of variable has a pattern, whose groups are the parts of the variable. The patterns are
given as texts and as expressions, and reading the one gives the other:
`VariableKind.read_patternText`.
-/

namespace Relabel

namespace Grammar

-- ---------------------------------------------------------------------------
-- Expressions
-- ---------------------------------------------------------------------------

def letters (text : Text) : List Expr := text.map fun c => .char (.single c)

def word (text : Text) : Expr := .seqAll (letters text)

def words (labels : List Text) : Expr := .altAll (labels.map word)

def maybe (e : Expr) : Expr := .repeated e 0 (some 1) true

def digit : Expr := .char (.property .decimalDigit)

def digits : Expr := .repeated digit 1 none true

def oneOf (classes : List CharClass) : CharClass := classes.foldl .union .empty

def transformLabels : List Text := Transform.all.map Transform.label

/-- The parts of a date in the order in which they are tried: a label that begins with another one
comes before it. -/
def dateFields : List DateField := [
  .year, .yearShort, .monthName, .monthAbbreviated, .monthPadded, .month, .weekdayName,
  .weekdayAbbreviated, .dayPadded, .day, .hour12Padded, .hour12, .hour24, .minutePadded, .minute,
  .secondPadded, .second, .meridiemUpper, .meridiemLower, .unix]

def dateLabels : List Text := dateFields.map DateField.label

def pictureFields : List PictureAttribute := [
  .iso, .exposureTime, .focalLength35, .focalLength, .fNumber, .dimensions, .width, .height, .make,
  .model, .lens, .software, .latitude, .longitude]

def pictureLabels : List Text := pictureFields.map PictureAttribute.label

def songTags : List SongTag := [
  .title, .artist, .albumArtist, .album, .genre, .year, .totalTracks, .track, .totalDiscs, .disc]

def songLabels : List Text := songTags.map SongTag.label

def digestLabels : List Text := DigestAlgorithm.all.map DigestAlgorithm.label

def timeLabels : List Text := TimeAttribute.all.map TimeAttribute.label

def transform (number : Nat) : Expr :=
  maybe (.seqAll (letters ['.'] ++ [.group number (words transformLabels)]))

def date (number : Nat) : Expr := .group number (words dateLabels)

def scope : Expr := maybe (.group 1 (.seqAll (letters ['$'] ++ [digits])))

def skipped : List Expr := [digits, maybe (.seqAll (letters ['-'] ++ [digits]))]

def anotherSkipped : Expr :=
  .seqAll (letters [';'] ++ [.repeated (.char (.property .blank)) 0 none true] ++ skipped)

def skipList : Expr :=
  maybe (.seqAll (letters ['<'] ++
    [.group 7 (.seqAll (skipped ++ [.repeated anotherSkipped 0 none true]))] ++ letters ['>']))

def width : Expr :=
  .group 3 (.seqAll (letters ['%'] ++ [.group 4 (.repeated digit 0 none true)] ++ letters ['d']))

def systemLetter : CharClass := oneOf [.single 'b', .single 'o', .single 'r', .single 'h']

def tagCharacter : CharClass :=
  oneOf [.range '0' '9', .range 'A' 'Z', .range 'a' 'z', .single '_']

end Grammar

open Grammar

namespace VariableKind

def front : VariableKind → List Expr
  | stem => letters "f".toList
  | extension => letters "ext".toList
  | parent => [maybe (.group 1 digits)] ++ letters ['p']
  | picture => [words ["exif".toList, "x".toList]] ++ letters ['.'] ++
      [.alt (.group 1 (words pictureLabels))
        (.seqAll ([.group 2 (word "cdt".toList)] ++ letters ['.'] ++ [date 3]))]
  | index => [scope, maybe (.group 2 digits), width, maybe (.group 5 (.char systemLetter)),
      maybe (.group 6 digits), skipList]
  | song => letters "id3.".toList ++ [.group 1 (words songLabels)]
  | digest => letters "hash.".toList ++ [.group 1 (words digestLabels)]
  | time => [.group 1 (words timeLabels)] ++ letters ['.'] ++ [date 2]
  | exifTool => letters "xt.".toList ++ [.group 1 (.repeated (.char tagCharacter) 1 none true)]
  | capture => [scope] ++ letters ['.'] ++
      [.alt (.group 2 (words transformLabels)) (.seqAll (letters "dt.".toList ++ [date 3]))]
  | column => letters "csv.".toList ++ [.group 1 digits]

def groupCount : VariableKind → Nat
  | stem | extension => 1
  | parent | song | digest | exifTool | column => 2
  | time | capture => 3
  | picture => 4
  | index => 7

def mayTransform : VariableKind → Bool
  | index | capture => false
  | _ => true

def parts (kind : VariableKind) : List Expr :=
  kind.front ++ if kind.mayTransform then [transform kind.groupCount] else []

def expr (kind : VariableKind) : Expr :=
  .seqAll (letters ['{'] ++ kind.parts ++ letters ['}'])

def pattern (kind : VariableKind) : Pattern := .ofExpr kind.expr kind.groupCount []

end VariableKind

-- ---------------------------------------------------------------------------
-- Texts
-- ---------------------------------------------------------------------------

namespace Grammar

def transformText : Text := "(?:\\.(up|lw|ti|win|mac))?".toList

def dateText : Text :=
  "(YYYY|YY|MMMM|MMM|MM|M|DDDD|DDD|DD|D|hh|h|H|mm|m|ss|s|A|a|unix)".toList

/-- Up to where the part of a date is asked for. -/
def timeText : Text := "\\\x7b(mtime|btime|atime|ctime|now)\\.".toList

def pictureText : Text :=
  "\\\x7b(?:exif|x)\\.(?:(iso|et|fl35|fl|fnum|wh|w|h|make|model|lens|soft|lat|lon)|(cdt)\\.".toList

def captureText : Text := "\\\x7b(\\$\\d+)?\\.(?:(up|lw|ti|win|mac)|dt\\.".toList

def indexText : Text := "\\\x7b(\\$\\d+)?(\\d+)?(%(\\d*)d)(".toList

def stepText : Text := ")?(\\d+)?(?:<(\\d+(?:-\\d+)?(?:;\\s*\\d+(?:-\\d+)?)*)>)?".toList

def exifToolText : Text := "\\\x7bxt\\.(".toList

end Grammar

namespace VariableKind

def frontText : VariableKind → Text
  | stem => "\\\x7bf".toList
  | extension => "\\\x7bext".toList
  | parent => "\\\x7b(\\d+)?p".toList
  | picture => pictureText ++ (dateText ++ [')'])
  | index => indexText ++ ('[' :: ("borh]".toList ++ stepText))
  | song => "\\\x7bid3\\.(title|artist|album_artist|album|genre|year".toList ++
      "|total_tracks|track|total_discs|disc)".toList
  | digest => "\\\x7bhash\\.(sha224|sha256|sha384|sha512|blake3)".toList
  | time => timeText ++ dateText
  | exifTool => exifToolText ++ ('[' :: ("0-9A-Za-z_]".toList ++ "+)".toList))
  | capture => captureText ++ (dateText ++ [')'])
  | column => "\\\x7bcsv\\.(\\d+)".toList

def backText (kind : VariableKind) : Text :=
  (if kind.mayTransform then transformText else []) ++ "\\\x7d".toList

def patternText (kind : VariableKind) : Text := kind.frontText ++ kind.backText

end VariableKind

-- ---------------------------------------------------------------------------
-- Reading labels
-- ---------------------------------------------------------------------------

namespace Grammar

open PatternReader

abbrev noFlags : PatternFlags := .start false

/-- Labels to choose from, as a group. -/
def labelsText (labels : List Text) : Text := '(' :: (Text.joinWith '|' labels ++ [')'])

def isPlain (label : Text) : Bool := !label.isEmpty && label.all (!Escape.isMeta ·)

structure Plain (labels : List Text) : Prop where
  ne_nil : labels ≠ []
  all : labels.all isPlain = true

theorem sequence_some (branches items : List Expr) :
    Level.sequence ⟨branches, items.reverse.map some⟩ = .seqAll items := by
  rw [Level.sequence, ← List.map_reverse, List.reverse_reverse, List.filterMap_map,
    Function.id_comp, List.filterMap_some]

section Labels

variable (branches : List Expr) (groups : List OpenGroup) (names : List (Text × Nat))
  (count bound : Nat) (rest : Text)

theorem readAll_escaped (items : List (Option Expr)) (text : Text) :
    State.readAll ⟨noFlags, ⟨branches, items⟩, groups, count, names⟩ (bound + text.length)
        (Pattern.escape text ++ rest) =
      State.readAll ⟨noFlags, ⟨branches, (letters text).reverse.map some ++ items⟩, groups, count,
        names⟩ bound rest := by
  rw [Pattern.readAll_escape_append rfl, Pattern.foldl_addChar, ← List.map_reverse, letters,
    ← List.map_reverse, List.map_map]
  rfl

private theorem readAll_label (items : List (Option Expr)) {label : Text}
    (hplain : label.all (!Escape.isMeta ·) = true) :
    State.readAll ⟨noFlags, ⟨branches, items⟩, groups, count, names⟩ (bound + label.length)
        (label ++ rest) =
      State.readAll ⟨noFlags, ⟨branches, (letters label).reverse.map some ++ items⟩, groups, count,
        names⟩ bound rest := by
  have hread := readAll_escaped branches groups names count bound rest items label
  rwa [Pattern.escape_eq_self hplain] at hread

private theorem readAll_alternatives (number : Nat) (outer : Level) {labels : List Text}
    (hplain : Plain labels) :
    State.readAll ⟨noFlags, ⟨branches, []⟩, ⟨some number, noFlags, outer⟩ :: groups, count, names⟩
        (bound + 1 + (Text.joinWith '|' labels).length) (Text.joinWith '|' labels ++ (')' :: rest)) =
      State.readAll ⟨noFlags,
        outer.add (.group number (.altAll (branches.reverse ++ labels.map word))), groups, count,
        names⟩ bound rest := by
  induction labels generalizing branches with
  | nil => exact absurd rfl hplain.ne_nil
  | cons label labels ih =>
    obtain ⟨⟨-, hlabel⟩, hlabels⟩ : (label.isEmpty = false ∧ label.all (!Escape.isMeta ·) = true) ∧
        labels.all isPlain = true := by
      simpa [isPlain] using hplain.all
    have hword : Level.sequence ⟨branches, (letters label).reverse.map some⟩ = word label :=
      sequence_some branches (letters label)
    cases labels with
    | nil =>
      rw [Text.joinWith, readAll_label _ _ _ _ _ _ _ hlabel, List.append_nil,
        Pattern.readAll_next rfl (show State.next _ ')' rest = .ok (_, rest) from rfl), Level.expr,
        hword, List.reverse_cons]
      rfl
    | cons next others =>
      have hjoin : Text.joinWith '|' (label :: next :: others) =
          label ++ '|' :: Text.joinWith '|' (next :: others) := rfl
      have hlength : bound + 1 + (label ++ '|' :: Text.joinWith '|' (next :: others)).length =
          bound + 1 + (Text.joinWith '|' (next :: others)).length + 1 + label.length := by
        rw [List.length_append, List.length_cons]
        omega
      have hsplit (text : Text) : State.next ⟨noFlags, ⟨branches, (letters label).reverse.map some⟩,
          ⟨some number, noFlags, outer⟩ :: groups, count, names⟩ '|' text =
          .ok (⟨noFlags, ⟨word label :: branches, []⟩, ⟨some number, noFlags, outer⟩ :: groups,
            count, names⟩, text) := by
        rw [← hword]
        rfl
      rw [hjoin, hlength, List.append_assoc, readAll_label _ _ _ _ _ _ _ hlabel,
        List.append_nil, List.cons_append, Pattern.readAll_next rfl (hsplit _),
        ih _ ⟨List.cons_ne_nil next others, hlabels⟩, List.reverse_cons, List.append_assoc]
      rfl

theorem openGroup_capture (s : State) {text : Text} (hextended : s.flags.extended = false)
    (h : text.head? ≠ some '?') :
    s.openGroup text = (s.openCapture none).map (·, text) := by
  have hblanks : Bracket.skipBlanks s.flags.extended text = text := by
    cases text <;> simp [Bracket.skipBlanks, hextended]
  rw [State.openGroup, hblanks]
  split
  case h_8 => rfl
  all_goals exact absurd rfl h

private theorem head?_labels {labels : List Text} (hplain : Plain labels) :
    (Text.joinWith '|' labels ++ (')' :: rest)).head? ≠ some '?' := by
  rcases labels with _ | ⟨_ | ⟨c, cs⟩, labels⟩
  · exact nofun
  · exact absurd hplain.all nofun
  · have hc : c ≠ '?' := by
      rintro rfl
      exact absurd hplain.all nofun
    cases labels <;> simpa [Text.joinWith] using hc

theorem readAll_labels (items : List (Option Expr)) {labels : List Text}
    (hplain : Plain labels) :
    State.readAll ⟨noFlags, ⟨branches, items⟩, groups, count, names⟩
        (bound + (labelsText labels).length) (labelsText labels ++ rest) =
      State.readAll ⟨noFlags, ⟨branches, some (.group (count + 1) (words labels)) :: items⟩, groups,
        count + 1, names⟩ bound rest := by
  have hlength : bound + (labelsText labels).length =
      bound + 1 + (Text.joinWith '|' labels).length + 1 := by
    rw [labelsText, List.length_cons, List.length_append, List.length_singleton]
    omega
  have hopen : State.next ⟨noFlags, ⟨branches, items⟩, groups, count, names⟩ '('
      (Text.joinWith '|' labels ++ (')' :: rest)) =
      .ok (⟨noFlags, .empty, ⟨some (count + 1), noFlags, ⟨branches, items⟩⟩ :: groups, count + 1,
        names⟩, Text.joinWith '|' labels ++ (')' :: rest)) :=
    openGroup_capture _ rfl (head?_labels rest hplain)
  rw [hlength, labelsText, List.cons_append, List.append_assoc, List.singleton_append,
    Pattern.readAll_next rfl hopen]
  exact readAll_alternatives [] groups names (count + 1) bound rest (count + 1) _ hplain

end Labels

-- ---------------------------------------------------------------------------
-- Reading the fronts
-- ---------------------------------------------------------------------------

/-- So far these items have been read, the latest first, and so many groups among them. -/
abbrev reading (items : List Expr) (count : Nat) : State :=
  ⟨noFlags, ⟨[], items.map some⟩, [], count, []⟩

private theorem reading_escaped (items : List Expr) (count bound : Nat) (text rest : Text) :
    (reading items count).readAll (bound + text.length) (Pattern.escape text ++ rest) =
      (reading ((letters text).reverse ++ items) count).readAll bound rest := by
  rw [readAll_escaped, ← List.map_append]

private theorem reading_labels (items : List Expr) (count bound : Nat) (rest : Text)
    {labels : List Text} (hplain : Plain labels) :
    (reading items count).readAll (bound + (labelsText labels).length) (labelsText labels ++ rest) =
      (reading (.group (count + 1) (words labels) :: items) (count + 1)).readAll bound rest :=
  readAll_labels [] [] [] count bound rest _ hplain

private theorem plain_dateLabels : Plain dateLabels := ⟨nofun, by decide +kernel⟩

private theorem plain_timeLabels : Plain timeLabels := ⟨nofun, by decide +kernel⟩

private theorem plain_pictureLabels : Plain pictureLabels := ⟨nofun, by decide +kernel⟩

private theorem plain_transformLabels : Plain transformLabels := ⟨nofun, by decide +kernel⟩

/-- Reading the front of a pattern gives its parts. -/
def ReadsFront (kind : VariableKind) (steps count : Nat) : Prop :=
  ∀ bound, (reading [] 0).readAll (bound + steps) (kind.frontText ++ kind.backText) =
    (reading (letters ['{'] ++ kind.front).reverse count).readAll bound kind.backText

private theorem readsFront_stem : ReadsFront .stem 2 0 := fun _ => (rfl)

private theorem readsFront_extension : ReadsFront .extension 4 0 := fun _ => (rfl)

private theorem readsFront_parent : ReadsFront .parent 7 1 := fun _ => (rfl)

private theorem readsFront_column : ReadsFront .column 9 1 := fun _ => (rfl)

private theorem readsFront_labels {kind : VariableKind} (front : Text) {labels : List Text}
    (htext : kind.frontText = Pattern.escape front ++ labelsText labels)
    (hfront : letters ['{'] ++ kind.front = letters front ++ [.group 1 (words labels)])
    (hplain : Plain labels) : ReadsFront kind ((labelsText labels).length + front.length) 1 := by
  intro bound
  rw [htext, hfront, List.append_assoc, ← Nat.add_assoc, reading_escaped, List.append_nil,
    reading_labels _ _ _ _ hplain, List.reverse_concat]

private theorem readsFront_song : ReadsFront .song ((labelsText songLabels).length + 5) 1 :=
  readsFront_labels "\x7bid3.".toList (by decide +kernel) rfl ⟨nofun, by decide +kernel⟩

private theorem readsFront_digest : ReadsFront .digest ((labelsText digestLabels).length + 6) 1 :=
  readsFront_labels "\x7bhash.".toList (by decide +kernel) rfl ⟨nofun, by decide +kernel⟩

private theorem readsFront_time : ReadsFront .time ((labelsText dateLabels).length + ['.'].length +
    (labelsText timeLabels).length + ['{'].length) 2 := by
  intro bound
  have htext : VariableKind.time.frontText = Pattern.escape ['{'] ++ (labelsText timeLabels ++
      (Pattern.escape ['.'] ++ labelsText dateLabels)) := by decide +kernel
  rw [htext]
  simp only [List.append_assoc, ← Nat.add_assoc]
  rw [reading_escaped, reading_labels _ _ _ _ plain_timeLabels, reading_escaped,
    reading_labels _ _ _ _ plain_dateLabels]
  rfl

abbrev readingWithin (branches items outer : List Expr) (count : Nat) : State :=
  ⟨noFlags, ⟨branches, items.map some⟩, [⟨none, noFlags, ⟨[], outer.map some⟩⟩], count, []⟩

private theorem within_labels (branches items outer : List Expr) (count bound : Nat) (rest : Text)
    {labels : List Text} (hplain : Plain labels) :
    (readingWithin branches items outer count).readAll (bound + (labelsText labels).length)
        (labelsText labels ++ rest) =
      (readingWithin branches (.group (count + 1) (words labels) :: items) outer
        (count + 1)).readAll bound rest :=
  readAll_labels _ _ _ count bound rest _ hplain

private theorem within_date (alternative : Expr) (items outer : List Expr) (count bound : Nat)
    (rest : Text) :
    (readingWithin [alternative] items outer count).readAll
        (bound + 1 + (labelsText dateLabels).length) (labelsText dateLabels ++ (')' :: rest)) =
      (reading (.alt alternative (.seqAll (items.reverse ++ [date (count + 1)])) :: outer)
        (count + 1)).readAll bound rest := by
  have hsequence := sequence_some [alternative] (items.reverse ++ [date (count + 1)])
  rw [List.reverse_append, List.reverse_reverse] at hsequence
  rw [within_labels _ _ _ _ _ _ plain_dateLabels, ← hsequence]
  rfl

private theorem readsFront_picture : ReadsFront .picture
    (1 + (labelsText dateLabels).length + 7 + (labelsText pictureLabels).length + 11) 3 := by
  intro bound
  let outer := (letters ['{'] ++ ([words ["exif".toList, "x".toList]] ++ letters ['.'])).reverse
  have hopen (bound : Nat) (rest : Text) :
      (reading [] 0).readAll (bound + 11) ("\\\x7b(?:exif|x)\\.(?:".toList ++ rest) =
        (readingWithin [] [] outer 0).readAll bound rest := (rfl)
  have hsecond (bound : Nat) (rest : Text) :
      (readingWithin [] [.group 1 (words pictureLabels)] outer 1).readAll (bound + 7)
          ("|(cdt)\\.".toList ++ rest) =
        (readingWithin [.group 1 (words pictureLabels)]
          ([Expr.group 2 (word "cdt".toList)] ++ letters ['.']).reverse outer 2).readAll bound rest :=
    (rfl)
  have htext : VariableKind.picture.frontText = "\\\x7b(?:exif|x)\\.(?:".toList ++
      (labelsText pictureLabels ++ ("|(cdt)\\.".toList ++ (labelsText dateLabels ++ [')']))) := by
    decide +kernel
  rw [htext]
  simp only [List.append_assoc, ← Nat.add_assoc, List.singleton_append]
  rw [hopen, within_labels _ _ _ _ _ _ plain_pictureLabels, hsecond, within_date]
  rfl

private theorem readsFront_capture : ReadsFront .capture
    (1 + (labelsText dateLabels).length + 4 + (labelsText transformLabels).length + 9) 3 := by
  intro bound
  let outer := (letters ['{'] ++ ([scope] ++ letters ['.'])).reverse
  have hopen (bound : Nat) (rest : Text) :
      (reading [] 0).readAll (bound + 9) ("\\\x7b(\\$\\d+)?\\.(?:".toList ++ rest) =
        (readingWithin [] [] outer 1).readAll bound rest := (rfl)
  have hsecond (bound : Nat) (rest : Text) :
      (readingWithin [] [.group 2 (words transformLabels)] outer 2).readAll (bound + 4)
          ("|dt\\.".toList ++ rest) =
        (readingWithin [.group 2 (words transformLabels)] (letters "dt.".toList).reverse outer
          2).readAll bound rest := (rfl)
  have htext : VariableKind.capture.frontText = "\\\x7b(\\$\\d+)?\\.(?:".toList ++
      (labelsText transformLabels ++ ("|dt\\.".toList ++ (labelsText dateLabels ++ [')']))) := by
    decide +kernel
  rw [htext]
  simp only [List.append_assoc, ← Nat.add_assoc, List.singleton_append]
  rw [hopen, within_labels _ _ _ _ _ _ plain_transformLabels, hsecond, within_date]
  rfl

-- ---------------------------------------------------------------------------
-- Classes
-- ---------------------------------------------------------------------------

private theorem readAll_class (branches : List Expr) (items : List (Option Expr))
    (groups : List OpenGroup) (names : List (Text × Nat)) (count bound : Nat) (rest : Text)
    {text : Text} {accepted : CharClass} {steps : Nat} (hsteps : steps ≤ 2 * text.length + 2)
    (h : ∀ bound rest, Bracket.read noFlags (bound + steps) (text ++ rest) = .ok (accepted, rest)) :
    State.readAll ⟨noFlags, ⟨branches, items⟩, groups, count, names⟩ (bound + 1)
        ('[' :: (text ++ rest)) =
      State.readAll ⟨noFlags, ⟨branches, some (.char accepted) :: items⟩, groups, count, names⟩
        bound rest := by
  have hbound : 2 * (text ++ rest).length + 2 =
      (2 * (text ++ rest).length + 2 - steps) + steps := by
    rw [List.length_append]
    omega
  have hread := h (2 * (text ++ rest).length + 2 - steps) rest
  rw [← hbound] at hread
  have hnext : State.next ⟨noFlags, ⟨branches, items⟩, groups, count, names⟩ '[' (text ++ rest) =
      .ok (State.add (.char accepted) ⟨noFlags, ⟨branches, items⟩, groups, count, names⟩, rest) := by
    show (Bracket.read noFlags _ (text ++ rest) >>= _) = _
    rw [hread]
    rfl
  exact Pattern.readAll_next rfl hnext bound

abbrev readingInside (items outer : List Expr) (count : Nat) : State :=
  ⟨noFlags, ⟨[], items.map some⟩, [⟨some count, noFlags, ⟨[], outer.map some⟩⟩], count, []⟩

private theorem readAll_indexText (bound : Nat) (rest : Text) :
    (reading [] 0).readAll (bound + 21) (indexText ++ ('[' :: rest)) =
      (readingInside [] (letters ['{'] ++ [scope, maybe (.group 2 digits), width]).reverse
        5).readAll bound ('[' :: rest) :=
  (rfl)

private theorem readAll_stepText (bound : Nat) :
    (readingInside [.char systemLetter]
      (letters ['{'] ++ [scope, maybe (.group 2 digits), width]).reverse 5).readAll (bound + 36)
        (stepText ++ VariableKind.index.backText) =
      (reading (letters ['{'] ++ VariableKind.index.front).reverse 7).readAll bound
        VariableKind.index.backText :=
  (rfl)

private theorem readsFront_index : ReadsFront .index 58 7 := by
  intro bound
  have hclass (bound : Nat) (rest : Text) : Bracket.read noFlags (bound + 6)
      ("borh]".toList ++ rest) = .ok (systemLetter, rest) := (rfl)
  show (reading [] 0).readAll (bound + 36 + 1 + 21)
    (indexText ++ ('[' :: ("borh]".toList ++ stepText)) ++ _) = _
  rw [List.append_assoc, List.cons_append, readAll_indexText, List.append_assoc,
    readAll_class _ _ _ _ _ _ _ (by decide) hclass]
  exact readAll_stepText bound

private theorem readAll_exifToolText (bound : Nat) (rest : Text) :
    (reading [] 0).readAll (bound + 5) (exifToolText ++ ('[' :: rest)) =
      (readingInside [] (letters ['{'] ++ letters "xt.".toList).reverse 1).readAll bound
        ('[' :: rest) :=
  (rfl)

private theorem readsFront_exifTool : ReadsFront .exifTool 8 1 := by
  intro bound
  have hclass (bound : Nat) (rest : Text) : Bracket.read noFlags (bound + 6)
      ("0-9A-Za-z_]".toList ++ rest) = .ok (tagCharacter, rest) := (rfl)
  show (reading [] 0).readAll (bound + 2 + 1 + 5)
    (exifToolText ++ ('[' :: ("0-9A-Za-z_]".toList ++ "+)".toList)) ++ _) = _
  rw [List.append_assoc, List.cons_append, readAll_exifToolText, List.append_assoc,
    readAll_class _ _ _ _ _ _ _ (by decide) hclass]
  rfl

-- ---------------------------------------------------------------------------
-- The back
-- ---------------------------------------------------------------------------

private theorem readAll_transform (items : List Expr) (count bound : Nat) (rest : Text) :
    (reading items count).readAll (bound + 22) (transformText ++ '\\' :: rest) =
      (reading (transform (count + 1) :: items) (count + 1)).readAll bound ('\\' :: rest) :=
  (rfl)

private theorem readAll_close (items : List Expr) (count bound : Nat) :
    (reading items count).readAll (bound + 1) "\\\x7d".toList =
      .ok (reading (.char (.single '}') :: items) count) :=
  Pattern.readAll_nil _ bound

end Grammar

namespace VariableKind

open PatternReader

theorem readAll_backText (kind : VariableKind) (items : List Expr) (count bound : Nat)
    (hbound : kind.backText.length < bound) : (reading items count).readAll bound kind.backText =
      .ok (if kind.mayTransform then
        reading (.char (.single '}') :: transform (count + 1) :: items) (count + 1)
      else reading (.char (.single '}') :: items) count) := by
  unfold backText at hbound ⊢
  split
  case isTrue hmay =>
    have hlength : (transformText ++ "\\\x7d".toList).length = 27 := rfl
    rw [if_pos hmay, hlength] at hbound
    obtain ⟨more, rfl⟩ := Nat.exists_eq_add_of_le' (m := 23) (n := bound) (by omega)
    exact (readAll_transform items count (more + 1) _).trans (readAll_close ..)
  case isFalse =>
    obtain ⟨more, rfl⟩ := Nat.exists_eq_add_of_le' (m := 1) (n := bound) (by omega)
    exact readAll_close items count more

theorem readAll_patternText {kind : VariableKind} {steps count : Nat}
    (h : ReadsFront kind steps count) (hsteps : steps ≤ kind.frontText.length)
    (hcount : kind.groupCount = if kind.mayTransform then count + 1 else count) :
    (reading [] 0).readAll (kind.patternText.length + 1) kind.patternText =
      .ok (reading (letters ['{'] ++ kind.parts ++ letters ['}']).reverse kind.groupCount) := by
  have hlength : kind.patternText.length = kind.frontText.length + kind.backText.length :=
    List.length_append
  obtain ⟨bound, hbound⟩ := Nat.exists_eq_add_of_le'
    (show steps ≤ kind.patternText.length + 1 by omega)
  rw [hbound, patternText, h bound, readAll_backText kind _ count bound (by omega), parts]
  cases hmay : kind.mayTransform <;>
  · rw [hmay] at hcount
    simp [letters, hcount]

theorem level_expr (items : List Expr) :
    Level.expr ⟨[], items.reverse.map some⟩ = .seqAll items := by
  rw [Level.expr, sequence_some]
  rfl

theorem read_of_front {kind : VariableKind} {steps count : Nat} (h : ReadsFront kind steps count)
    (hsteps : steps ≤ kind.frontText.length)
    (hcount : kind.groupCount = if kind.mayTransform then count + 1 else count)
    (hweight : kind.expr.weight ≤ Pattern.largestWeight) :
    Pattern.read false kind.patternText = .ok kind.pattern := by
  show ((reading [] 0).readAll _ _ >>= _) = _
  rw [readAll_patternText h hsteps hcount]
  show (if Pattern.largestWeight < (Level.expr _).weight then _ else _) = _
  rw [level_expr]
  exact if_neg (Nat.not_lt.mpr hweight)

theorem read_patternText (kind : VariableKind) :
    Pattern.read false kind.patternText = .ok kind.pattern := by
  have hweight : kind.expr.weight ≤ Pattern.largestWeight := by cases kind <;> decide +kernel
  cases kind with
  | stem => exact read_of_front readsFront_stem (by decide +kernel) rfl hweight
  | extension => exact read_of_front readsFront_extension (by decide +kernel) rfl hweight
  | parent => exact read_of_front readsFront_parent (by decide +kernel) rfl hweight
  | picture => exact read_of_front readsFront_picture (by decide +kernel) rfl hweight
  | index => exact read_of_front readsFront_index (by decide +kernel) rfl hweight
  | song => exact read_of_front readsFront_song (by decide +kernel) rfl hweight
  | digest => exact read_of_front readsFront_digest (by decide +kernel) rfl hweight
  | time => exact read_of_front readsFront_time (by decide +kernel) rfl hweight
  | exifTool => exact read_of_front readsFront_exifTool (by decide +kernel) rfl hweight
  | capture => exact read_of_front readsFront_capture (by decide +kernel) rfl hweight
  | column => exact read_of_front readsFront_column (by decide +kernel) rfl hweight

end VariableKind

end Relabel
