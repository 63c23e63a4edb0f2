import Relabel.Proofs.Text.Pieces
import Relabel.Proofs.Text.Runs
import Relabel.Toml.Reader

/-!
# Spelling values

Values that stand on one line and are read back as they are: whole numbers, truth values, and
texts in which nothing has to be escaped.
-/

namespace Relabel

theorem ne_of_all_not {p : Char → Bool} {ds : List Char}
    (hds : ds.all (fun d => !p d) = true) (hc : p c = true) : ∀ d ∈ ds, c ≠ d := by
  rintro d hd rfl
  have hnot := List.all_eq_true.mp hds c hd
  simp [hc] at hnot

namespace TomlQuoted

theorem isBlank_eq_false {c : Char} (hspace : c ≠ ' ') (htab : c ≠ '\t') : isBlank c = false := by
  simp [isBlank, hspace, htab]

/-- The text stands between double quotes as it is. -/
def IsPlain (text : Text) : Prop :=
  text.all (fun c => isAllowed c && c != '"' && c != '\\') = true

instance (text : Text) : Decidable (IsPlain text) := inferInstanceAs (Decidable (_ = true))

theorem isPlain_cons {c : Char} {cs : Text} : IsPlain (c :: cs) ↔
    (isAllowed c = true ∧ c ≠ '"' ∧ c ≠ '\\') ∧ IsPlain cs := by
  simp [IsPlain, and_assoc]

theorem readLine?_plain {text : Text} (h : IsPlain text) (rest : Text)
    (hsteps : text.length < steps) :
    readLine? '"' steps (text ++ '"' :: rest) = some (text, rest) := by
  induction text generalizing steps with
  | nil =>
    cases steps with
    | zero => cases hsteps
    | succ steps => simp [readLine?]
  | cons c cs ih =>
    obtain ⟨⟨hallowed, hquote, hslash⟩, hcs⟩ := isPlain_cons.mp h
    cases steps with
    | zero => cases hsteps
    | succ steps =>
      rw [List.cons_append, readLine?]
      simp [hallowed, hquote, hslash, ih hcs (Nat.lt_of_succ_lt_succ hsteps)]

theorem read?_cons_of_ne (hne : a ≠ b) (rest : Text) :
    read? (a :: b :: rest) = readLine? a (rest.length + 3) (b :: rest) := by
  cases rest with
  | nil => rfl
  | cons c cs => simp [read?, hne]

theorem read?_plain {text : Text} (hne : text ≠ []) (h : IsPlain text) (rest : Text) :
    read? ('"' :: (text ++ '"' :: rest)) = some (text, rest) := by
  obtain ⟨c, cs, rfl⟩ := List.exists_cons_of_ne_nil hne
  have hc : '"' ≠ c := (isPlain_cons.mp h).1.2.1.symm
  rw [List.cons_append, read?_cons_of_ne hc, ← List.cons_append]
  exact readLine?_plain h rest (by simp; omega)

end TomlQuoted

theorem TomlScalar.split_append {run rest : Text} (hrun : run.all isPart = true)
    (hrest : Stops isPart rest) (hblank : rest.head? ≠ some ' ') :
    split (run ++ rest) = (run, rest) := by
  rw [split, takeWhile_append_of_stops hrun hrest, List.drop_left]
  split
  case h_1 => simp at hblank
  case h_2 => rfl

/-- The values that stand on one line, with a way to spell them. -/
inductive Toml.Spelled : Text → Toml → Prop
  | scalar (nonempty : spelling ≠ []) (parts : spelling.all TomlScalar.isPart = true)
      (read : TomlScalar.value? spelling = some value) : Spelled spelling value
  | quoted (nonempty : t ≠ []) (plain : TomlQuoted.IsPlain t) :
      Spelled ('"' :: (t ++ ['"'])) (.text t)

namespace TomlReader

theorem skipBlanks_blank (text : Text) : skipBlanks (' ' :: text) = skipBlanks text := rfl

theorem skipBlanks_of_stops (h : Stops TomlQuoted.isBlank text) : skipBlanks text = text :=
  dropWhile_of_stops h

theorem isPart_apart (h : TomlScalar.isPart c = true) :
    ∀ d ∈ [' ', '\t', '[', '{', '"', '\''], c ≠ d := ne_of_all_not (by decide) h

theorem readValue?_of_spelled (h : Toml.Spelled spelling value) (rest : Text) (hsteps : 0 < steps) :
    readValue? steps (' ' :: (spelling ++ '\n' :: rest)) = some (value, '\n' :: rest) := by
  cases steps with
  | zero => cases hsteps
  | succ steps =>
  rw [readValue?, skipBlanks_blank]
  cases h with
  | scalar nonempty parts read =>
    obtain ⟨c, cs, rfl⟩ := List.exists_cons_of_ne_nil nonempty
    have hapart := isPart_apart (List.all_eq_true.mp parts c List.mem_cons_self)
    have hblank : TomlQuoted.isBlank c = false :=
      TomlQuoted.isBlank_eq_false (hapart _ (by simp)) (hapart _ (by simp))
    have hsplit : TomlScalar.split (c :: (cs ++ '\n' :: rest)) = (c :: cs, '\n' :: rest) :=
      TomlScalar.split_append parts (stops_cons (by decide) rest) (by simp)
    rw [List.cons_append, skipBlanks_of_stops (stops_cons hblank _)]
    simp [hapart, hsplit, read]
  | quoted nonempty plain =>
    rw [List.cons_append, skipBlanks_of_stops (stops_cons (by decide) _)]
    have hread := TomlQuoted.read?_plain nonempty plain ('\n' :: rest)
    simp [hread]

end TomlReader

-- ---------------------------------------------------------------------------
-- Whole numbers and truth values
-- ---------------------------------------------------------------------------

theorem Toml.spelled_boolean (b : Bool) :
    Toml.Spelled (if b then "true".toList else "false".toList) (.boolean b) := by
  cases b with
  | false => exact .scalar (by decide) (by decide) rfl
  | true => exact .scalar (by decide) (by decide) rfl

theorem Text.head?_decimal (hpos : 0 < n) : (decimal n).head? ≠ some '0' := by
  revert hpos
  refine toDigits_induction (motive := fun n text => 0 < n → text.head? ≠ some '0')
    (by decide) ?_ ?_ n
  · have hdigit : ∀ d < 10, 0 < d → d.digitChar ≠ '0' := by decide
    intro n hlt hpos
    simpa using hdigit n hlt hpos
  · intro n hle hfront _
    obtain ⟨c, cs, hdigits⟩ : ∃ c cs, Nat.toDigits 10 (n / 10) = c :: cs :=
      List.exists_cons_of_ne_nil Nat.toDigits_ne_nil
    have hfront := hfront (Nat.div_pos hle (by decide))
    rw [hdigits] at hfront ⊢
    exact hfront

namespace TomlScalar

private theorem digits?_decimal (n : Nat) :
    digits? Char.isDigit (Text.decimal n) = some (Text.decimal n) := by
  have hdigits := Text.all_isDigit_decimal n
  have hne : Text.decimal n ≠ [] := Nat.toDigits_ne_nil
  have hgroup : '_' ∉ Text.decimal n := fun hmem =>
    absurd (List.all_eq_true.mp hdigits _ hmem) (by decide)
  have hall : [Text.decimal n].all fun group => group ≠ [] && group.all Char.isDigit := by
    simp only [List.all_cons, List.all_nil, hdigits, Bool.and_true]
    exact decide_eq_true hne
  rw [digits?, Text.pieces_of_not_mem hgroup, if_pos hall, List.flatten_singleton]

private theorem wholeDigits?_decimal (n : Nat) : wholeDigits? (Text.decimal n) = some (Text.decimal n) := by
  rw [wholeDigits?, digits?_decimal, Option.filter_some, if_pos]
  rcases Nat.eq_zero_or_pos n with rfl | hpos
  · rfl
  · simp [Text.head?_decimal hpos]

private theorem integer?_of_all {text : Text} (h : ∀ c ∈ text, c.isDigit = true ∨ c = '-') :
    integer? text = ((wholeDigits? (withoutSign text)).bind Text.number?).map fun n =>
      if text.head? = some '-' then -(n : Int) else n := by
  unfold integer?
  split
  case h_1 => exact absurd (h 'x' (by simp)) (by decide)
  case h_2 => exact absurd (h 'o' (by simp)) (by decide)
  case h_3 => exact absurd (h 'b' (by simp)) (by decide)
  case h_4 => rfl

private theorem integer?_decimal (n : Nat) : integer? (Text.decimal n) = some (n : Int) := by
  have hdigits := List.all_eq_true.mp (Text.all_isDigit_decimal n)
  have hsign (c : Char) (hc : c ∈ Text.decimal n) : c ≠ '-' ∧ c ≠ '+' := by
    constructor <;> rintro rfl <;> exact absurd (hdigits _ hc) (by decide)
  have hwithout : withoutSign (Text.decimal n) = Text.decimal n := by
    unfold withoutSign
    split
    case h_1 rest heq => exact absurd rfl (hsign '+' (by simp [heq])).2
    case h_2 rest heq => exact absurd rfl (hsign '-' (by simp [heq])).1
    case h_3 => rfl
  have hhead : (Text.decimal n).head? ≠ some '-' := fun hhead =>
    (hsign '-' (List.mem_of_mem_head? hhead)).1 rfl
  rw [integer?_of_all fun c hc => .inl (hdigits c hc), hwithout, wholeDigits?_decimal,
    Option.bind_some, Text.number?_decimal]
  simp [hhead]

private theorem integer?_minus_decimal (n : Nat) :
    integer? ('-' :: Text.decimal n) = some (-(n : Int)) := by
  have hall : ∀ c ∈ '-' :: Text.decimal n, c.isDigit = true ∨ c = '-' :=
    List.forall_mem_cons.mpr ⟨.inr rfl, fun c hc =>
      .inl (List.all_eq_true.mp (Text.all_isDigit_decimal n) c hc)⟩
  rw [integer?_of_all hall, withoutSign, wholeDigits?_decimal, Option.bind_some,
    Text.number?_decimal]
  rfl

theorem integer?_integer (n : Int) : integer? (Text.integer n) = some n := by
  cases n with
  | ofNat n => exact integer?_decimal n
  | negSucc n => exact integer?_minus_decimal (n + 1)

theorem isDigit_or_minus (n : Int) : ∀ c ∈ Text.integer n, c.isDigit = true ∨ c = '-' := by
  have hdecimal (n : Nat) : ∀ c ∈ Text.decimal n, c.isDigit = true ∨ c = '-' := fun c hc =>
    .inl (List.all_eq_true.mp (Text.all_isDigit_decimal n) c hc)
  cases n with
  | ofNat n => exact hdecimal n
  | negSucc n => exact List.forall_mem_cons.mpr ⟨.inr rfl, hdecimal (n + 1)⟩

end TomlScalar

theorem Toml.spelled_integer (n : Int) : Toml.Spelled (Text.integer n) (.integer n) := by
  have hchars := TomlScalar.isDigit_or_minus n
  refine .scalar ?_ ?_ ?_
  · cases n with
    | ofNat n => exact Nat.toDigits_ne_nil
    | negSucc n => exact List.cons_ne_nil _ _
  · refine List.all_eq_true.mpr fun c hc => ?_
    rcases hchars c hc with hdigit | rfl
    · simp [TomlScalar.isPart, Char.isAlphanum, hdigit]
    · decide
  · have htrue : Text.integer n ≠ "true".toList := fun heq =>
      absurd (hchars 't' (by simp [heq])) (by decide)
    have hfalse : Text.integer n ≠ "false".toList := fun heq =>
      absurd (hchars 'f' (by simp [heq])) (by decide)
    rw [TomlScalar.value?, if_neg htrue, if_neg hfalse, TomlScalar.integer?_integer]

end Relabel
