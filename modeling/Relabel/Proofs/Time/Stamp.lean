import Mathlib.Data.List.Basic
import Relabel.Proofs.Text.Runs
import Relabel.Proofs.Time.Calendar
import Relabel.Time.NameDate

/-!
# Dates as they are written

A layout is also a form in which a date can be written, each item in its full width. What an item
writes it also reads (`readItem?_part`), and an item makes nothing of a text whose first character
is none of its own (`readItem?_of_stops`), so the first characters of two layouts tell whether one
of them refuses what is written in the form of the other.
-/

namespace Relabel

/-- A date to be written: the moment whose wall clock it shows, the digits of a fraction and the
offset from universal time, for the forms that have them. -/
structure Stamp where
  moment : Moment
  fraction : Text
  west : Bool
  hours : Nat
  minutes : Nat
  fourDigits : 0 ≤ moment.date.year ∧ moment.date.year ≤ 9999
  whole : moment.nanos = 0
  digits : fraction ≠ [] ∧ ∀ c ∈ fraction, c.isDigit
  belowDay : hours < 24
  belowHour : minutes < 60

namespace Stamp

def nanos (s : Stamp) : Nat := Nat.ofDigitChars 10 s.fraction 0 * 10 ^ 9 / 10 ^ s.fraction.length

def offset (s : Stamp) : Int :=
  let seconds : Int := (s.hours * 3600 + s.minutes * 60 : Nat)
  if s.west then -seconds else seconds

/-- What an item of a form writes. -/
def part (s : Stamp) : LayoutItem → Text
  | .year => DateField.render s.moment .year
  | .month => DateField.render s.moment .monthPadded
  | .day => DateField.render s.moment .dayPadded
  | .hour => DateField.render s.moment .hour24
  | .minute => DateField.render s.moment .minutePadded
  | .second => DateField.render s.moment .secondPadded
  | .fraction => '.' :: s.fraction
  | .offset => (if s.west then '-' else '+') ::
      (DateField.padded s.hours ++ ':' :: DateField.padded s.minutes)
  | .blank => [' ']
  | .char c => [c]

def write (s : Stamp) (form : Layout) : Text := form.flatMap s.part

def fill (s : Stamp) (r : Reading) : LayoutItem → Reading
  | .year => { r with year := s.moment.date.year }
  | .month => { r with month := s.moment.date.month }
  | .day => { r with day := s.moment.date.day }
  | .hour => { r with hour := s.moment.hour }
  | .minute => { r with minute := s.moment.minute }
  | .second => { r with second := s.moment.second }
  | .fraction => { r with nanos := s.nanos }
  | .offset => { r with offset := some s.offset }
  | .blank | .char _ => r

end Stamp

-- ---------------------------------------------------------------------------
-- Numbers of a fixed width
-- ---------------------------------------------------------------------------

namespace Layout

theorem readNumber?_append {digits : Text} (h : digits.number? = some n)
    (hlength : digits.length = most) (back : Text) :
    readNumber? most (digits ++ back) = some (n, back) := by
  obtain ⟨⟨-, hdigits⟩, -⟩ := Text.number?_eq_some_iff.mp h
  have htake : ((digits ++ back).take most).takeWhile Char.isDigit = digits := by
    rw [List.take_left' hlength]
    exact List.takeWhile_eq_self_iff.mpr hdigits
  rw [readNumber?, htake, h, Option.map_some, List.drop_left]

theorem exists_cons_of_number? {digits : Text} (h : digits.number? = some n) :
    ∃ c rest, digits = c :: rest ∧ c.isDigit := by
  obtain ⟨⟨hne, hdigits⟩, -⟩ := Text.number?_eq_some_iff.mp h
  cases digits with
  | nil => exact absurd rfl hne
  | cons c rest => exact ⟨c, rest, rfl, hdigits c List.mem_cons_self⟩

theorem trimStart_append_of_number? {digits : Text} (h : digits.number? = some n) (back : Text) :
    Text.trimStart (digits ++ back) = digits ++ back := by
  obtain ⟨c, rest, rfl, hc⟩ := exists_cons_of_number? h
  exact dropWhile_of_stops (stops_cons (isBlank_eq_false_of_isDigit hc) _)

theorem number?_padded (n : Nat) : (DateField.padded n).number? = some n :=
  Text.number?_zeroPadded_decimal 2 n

theorem length_padded (h : n < 100) : (DateField.padded n).length = 2 := by
  have hlength : (Nat.toDigits 10 n).length ≤ 2 :=
    (Nat.length_toDigits_le_iff (by decide) (by decide)).mpr h
  rw [DateField.padded, Text.length_zeroPadded]
  exact max_eq_left hlength

theorem readBetween?_padded (hleast : least ≤ n) (hmost : n ≤ most) (h : n < 100) (back : Text) :
    readBetween? least most (DateField.padded n ++ back) = some (n, back) := by
  rw [readBetween?, trimStart_append_of_number? (number?_padded n),
    readNumber?_append (number?_padded n) (length_padded h)]
  simp [hleast, hmost]

theorem readYear?_of_digits {text : Text} (h : text.number? = some n) (hlength : text.length = 4)
    (back : Text) : readYear? (text ++ back) = some ((n : Int), back) := by
  obtain ⟨c, rest, hcons, hc⟩ := exists_cons_of_number? h
  rw [readYear?, trimStart_append_of_number? h]
  split
  -- A sign is no digit.
  case h_1 heq | h_2 heq =>
    rw [hcons] at heq
    obtain ⟨rfl, -⟩ := List.cons.inj heq
    exact absurd hc (by decide)
  case h_3 => rw [readNumber?_append h hlength]; rfl

theorem number?_yearText (h₀ : 0 ≤ year) (h₁ : year ≤ 9999) :
    Text.number? (DateField.yearText year) = some year.toNat ∧
      (DateField.yearText year).length = 4 := by
  obtain ⟨n, rfl⟩ := Int.eq_ofNat_of_zero_le h₀
  have hlength : (Nat.toDigits 10 n).length ≤ 4 :=
    (Nat.length_toDigits_le_iff (by decide) (by decide)).mpr (by omega)
  rw [DateField.yearText, if_neg (by omega), if_pos h₁]
  refine ⟨Text.number?_zeroPadded_decimal 4 n, ?_⟩
  rw [Text.length_zeroPadded]
  exact max_eq_left hlength

theorem readPair?_padded (h : n < 100) (back : Text) :
    readPair? (DateField.padded n ++ back) = some (n, back) := by
  obtain ⟨a, b, hab⟩ := List.length_eq_two.mp (length_padded h)
  have hnumber := number?_padded n
  rw [hab] at hnumber ⊢
  obtain ⟨⟨-, hdigits⟩, -⟩ := Text.number?_eq_some_iff.mp hnumber
  simp [readPair?, hdigits a, hdigits b, hnumber]

theorem scaled_take_nine {digits : Text} (h : ∀ c ∈ digits, c.isDigit) :
    Nat.ofDigitChars 10 (digits.take 9) 0 * 10 ^ (9 - (digits.take 9).length) =
      Nat.ofDigitChars 10 digits 0 * 10 ^ 9 / 10 ^ digits.length := by
  obtain ⟨front, hfront⟩ : ∃ front, front = digits.take 9 := ⟨_, rfl⟩
  obtain ⟨back, hback⟩ : ∃ back, back = digits.drop 9 := ⟨_, rfl⟩
  have hsplit : digits = front ++ back := by rw [hfront, hback, List.take_append_drop]
  have hlt : Nat.ofDigitChars 10 back 0 < 10 ^ back.length :=
    ofDigitChars_lt fun c hc => h c (hsplit ▸ List.mem_append_right _ hc)
  have hlength : front.length ≤ 9 := by rw [hfront]; exact List.length_take_le ..
  have hnine : 10 ^ 9 = 10 ^ (9 - front.length) * 10 ^ front.length := by
    rw [← Nat.pow_add, Nat.sub_add_cancel hlength]
  have hvalue : Nat.ofDigitChars 10 digits 0 =
      10 ^ back.length * Nat.ofDigitChars 10 front 0 + Nat.ofDigitChars 10 back 0 := by
    rw [hsplit, Nat.ofDigitChars_append, Nat.ofDigitChars_eq_ofDigitChars_zero]
  have hpos (k : Nat) : 0 < 10 ^ k := Nat.pow_pos (by decide)
  rw [← hfront, hvalue, hsplit, List.length_append, Nat.add_comm front.length, Nat.pow_add, hnine,
    ← Nat.mul_assoc, Nat.mul_div_mul_right _ _ (hpos _)]
  -- Digits behind the ninth are there only when the first nine are all there.
  by_cases hnil : back = []
  · subst hnil
    simp
  · have hfull : front.length = 9 := by
      have := List.length_pos_of_ne_nil hnil
      simp only [hfront, hback, List.length_take, List.length_drop] at this ⊢
      omega
    rw [hfull, Nat.sub_self, Nat.pow_zero, Nat.mul_one, Nat.mul_one, Nat.mul_add_div (hpos _),
      Nat.div_eq_of_lt hlt, Nat.add_zero]

theorem readFraction?_of_digits {digits : Text} (h : digits ≠ [] ∧ ∀ c ∈ digits, c.isDigit)
    (hback : Stops Char.isDigit back) : readFraction? ('.' :: (digits ++ back)) =
      some (Nat.ofDigitChars 10 digits 0 * 10 ^ 9 / 10 ^ digits.length, back) := by
  have htake : (digits ++ back).takeWhile Char.isDigit = digits :=
    takeWhile_append_of_stops (List.all_eq_true.mpr h.2) hback
  have hnine : Text.number? (digits.take 9) = some (Nat.ofDigitChars 10 (digits.take 9) 0) := by
    refine Text.number?_eq_some_iff.mpr ⟨⟨by simp [h.1], ?_⟩, rfl⟩
    exact fun c hc => h.2 c (List.mem_of_mem_take hc)
  rw [readFraction?, htake, hnine, Option.map_some, List.drop_left, ← scaled_take_nine h.2]
  rfl

theorem readOffset?_padded (west : Bool) (hhours : hours < 24) (hminutes : minutes < 60)
    (back : Text) : readOffset? ((if west then '-' else '+') ::
      (DateField.padded hours ++ ':' :: DateField.padded minutes) ++ back) =
    some (if west then -((hours * 3600 + minutes * 60 : Nat) : Int)
      else ((hours * 3600 + minutes * 60 : Nat) : Int), back) := by
  have hcolon : (':' :: (DateField.padded minutes ++ back)).dropWhile
      (fun c => c == ':' || isBlank c) = DateField.padded minutes ++ back := by
    obtain ⟨c, rest, hcons, hc⟩ := exists_cons_of_number? (number?_padded minutes)
    have hstops : Stops (fun c => c == ':' || isBlank c) (DateField.padded minutes ++ back) := by
      rw [hcons]
      refine stops_cons ?_ _
      rw [isBlank_eq_false_of_isDigit hc, Bool.or_false, beq_eq_false_iff_ne]
      rintro rfl
      exact absurd hc (by decide)
    have hrun : ([':'] : Text).all (fun c => c == ':' || isBlank c) = true := by decide
    exact dropWhile_append_of_stops hrun hstops
  have hpair := readPair?_padded (show hours < 100 by omega)
    (':' :: (DateField.padded minutes ++ back))
  have hpair' := readPair?_padded (show minutes < 100 by omega) back
  cases west <;>
    simp [readOffset?, Text.trimStart, show isBlank '+' = false by decide,
      show isBlank '-' = false by decide, hpair, hcolon, hpair', Nat.not_le.mpr hminutes]

end Layout

-- ---------------------------------------------------------------------------
-- Items
-- ---------------------------------------------------------------------------

namespace LayoutItem

/-- The characters that an item takes as long as they come. -/
def takes : LayoutItem → Char → Bool
  | .blank => isBlank
  | .fraction => Char.isDigit
  | _ => fun _ => false

def admits : LayoutItem → Char → Bool
  | .year => fun c => isBlank c || c.isDigit || c == '-' || c == '+'
  | .month | .day | .hour | .minute | .second => fun c => isBlank c || c.isDigit
  | .fraction => (· == '.')
  | .offset => fun c => isBlank c || c == '+' || c == '-' || c == '−'
  | .blank => isBlank
  | .char d => (d == ·)

def opens : LayoutItem → Text
  | .fraction => ['.']
  | .offset => ['+', '-']
  | .blank => [' ']
  | .char c => [c]
  | _ => (List.range 10).map Nat.digitChar

def isOptional : LayoutItem → Bool
  | .fraction | .blank => true
  | _ => false

end LayoutItem

namespace Layout

private theorem readNumber?_of_stops {text : Text} (h : Stops Char.isDigit text) (most : Nat) :
    readNumber? most text = none := by
  have hnone : (text.take most).takeWhile Char.isDigit = [] := by
    refine takeWhile_of_stops fun c hc => h c ?_
    rw [List.head?_take] at hc
    split at hc
    case isTrue => simp at hc
    case isFalse => exact hc
  rw [readNumber?, hnone]
  rfl

private theorem readBetween?_of_stops {text : Text} (least most : Nat)
    (h : Stops LayoutItem.month.admits text) : readBetween? least most text = none := by
  cases text with
  | nil => rfl
  | cons c rest =>
    obtain ⟨hblank, hdigit⟩ := Bool.or_eq_false_iff.mp (h c rfl)
    rw [readBetween?, Text.trimStart, dropWhile_of_stops (stops_cons hblank rest),
      readNumber?_of_stops (stops_cons hdigit rest)]
    rfl

private theorem readYear?_of_stops {text : Text} (h : Stops LayoutItem.year.admits text) :
    readYear? text = none := by
  cases text with
  | nil => rfl
  | cons c rest =>
    have hc := h c rfl
    simp only [LayoutItem.admits, Bool.or_eq_false_iff, beq_eq_false_iff_ne] at hc
    obtain ⟨⟨⟨hblank, hdigit⟩, hminus⟩, hplus⟩ := hc
    rw [readYear?, Text.trimStart, dropWhile_of_stops (stops_cons hblank rest)]
    split
    case h_1 heq => exact absurd (List.cons.inj heq).1 hminus
    case h_2 heq => exact absurd (List.cons.inj heq).1 hplus
    case h_3 => rw [readNumber?_of_stops (stops_cons hdigit rest)]; rfl

private theorem readFraction?_of_stops {text : Text} (h : Stops LayoutItem.fraction.admits text) :
    readFraction? text = some (0, text) := by
  rw [readFraction?.eq_def]
  split
  case h_1 rest => exact absurd (h '.' rfl) (by decide)
  case h_2 => rfl

private theorem readOffset?_of_stops {text : Text} (h : Stops LayoutItem.offset.admits text) :
    readOffset? text = none := by
  cases text with
  | nil => rfl
  | cons c rest =>
    have hc := h c rfl
    simp only [LayoutItem.admits, Bool.or_eq_false_iff, beq_eq_false_iff_ne] at hc
    obtain ⟨⟨⟨hblank, hplus⟩, hminus⟩, hlong⟩ := hc
    rw [readOffset?, Text.trimStart, dropWhile_of_stops (stops_cons hblank rest)]
    split
    case h_1 heq => exact absurd (List.cons.inj heq).1 hplus
    case h_2 heq => exact absurd (List.cons.inj heq).1 hminus
    case h_3 heq => exact absurd (List.cons.inj heq).1 hlong
    case h_4 => rfl

end Layout

namespace Moment

theorem date_proper (m : Moment) : m.date.Proper := Date.ofDayNumber_proper _

theorem secondOfDay_lt (m : Moment) : m.secondOfDay < 86400 := by
  rw [secondOfDay]
  omega

end Moment

namespace Stamp

open Layout

theorem readItem?_part (s : Stamp) (r : Reading) (item : LayoutItem)
    (hback : Stops item.takes back) :
    readItem? (s.part item ++ back) r item = some (s.fill r item, back) := by
  obtain ⟨hmonth, hmonth', hday, hday'⟩ := s.moment.date_proper
  have hdays := hday'.trans (Date.daysInMonth_le _ _)
  have hsecond := s.moment.secondOfDay_lt
  cases item with
  | year =>
    show (readYear? (DateField.yearText _ ++ back)).map _ = _
    obtain ⟨hnumber, hlength⟩ := number?_yearText s.fourDigits.1 s.fourDigits.2
    rw [readYear?_of_digits hnumber hlength, Int.toNat_of_nonneg s.fourDigits.1]
    rfl
  | month =>
    show (readBetween? 1 12 (DateField.padded _ ++ back)).map _ = _
    rw [readBetween?_padded hmonth hmonth' (by omega)]
    rfl
  | day =>
    show (readBetween? 1 31 (DateField.padded _ ++ back)).map _ = _
    rw [readBetween?_padded hday hdays (by omega)]
    rfl
  | hour =>
    have hlt : s.moment.hour ≤ 23 := by rw [Moment.hour]; omega
    show (readBetween? 0 23 (DateField.padded _ ++ back)).map _ = _
    rw [readBetween?_padded (Nat.zero_le _) hlt (by omega)]
    rfl
  | minute =>
    have hlt : s.moment.minute ≤ 59 := by rw [Moment.minute]; omega
    show (readBetween? 0 59 (DateField.padded _ ++ back)).map _ = _
    rw [readBetween?_padded (Nat.zero_le _) hlt (by omega)]
    rfl
  | second =>
    have hlt : s.moment.second ≤ 60 := by rw [Moment.second, s.whole]; omega
    show (readBetween? 0 60 (DateField.padded _ ++ back)).map _ = _
    rw [readBetween?_padded (Nat.zero_le _) hlt (by omega)]
    rfl
  | fraction =>
    show (readFraction? ('.' :: (s.fraction ++ back))).map _ = _
    rw [readFraction?_of_digits s.digits hback]
    rfl
  | offset =>
    show (readOffset? (_ :: (DateField.padded _ ++ ':' :: DateField.padded _) ++ back)).map _ = _
    rw [readOffset?_padded s.west s.belowDay s.belowHour]
    rfl
  | blank =>
    have hrest : ([' '] ++ back).dropWhile isBlank = back :=
      dropWhile_append_of_stops (by decide) hback
    show some (r, ([' '] ++ back).dropWhile isBlank) = _
    rw [hrest]
    rfl
  | char c =>
    show (if c = c then some (r, back) else none) = _
    rw [if_pos rfl]
    rfl

/-- Without a character to begin with, an item is absent where it may be. -/
theorem readItem?_of_stops {item : LayoutItem} (h : Stops item.admits text) (r : Reading) :
    readItem? text r item =
      if item.isOptional then some (if item = .fraction then { r with nanos := 0 } else r, text)
      else none := by
  cases item with
  | year => simp [readItem?, readYear?_of_stops h, LayoutItem.isOptional]
  | month | day | hour | minute | second =>
    simp [readItem?, readBetween?_of_stops _ _ h, LayoutItem.isOptional]
  | fraction => simp [readItem?, readFraction?_of_stops h, LayoutItem.isOptional]
  | offset => simp [readItem?, readOffset?_of_stops h, LayoutItem.isOptional]
  | blank =>
    have hrest : text.dropWhile isBlank = text := dropWhile_of_stops h
    show some (r, text.dropWhile isBlank) = some (r, text)
    rw [hrest]
  | char c =>
    cases text with
    | nil => rfl
    | cons d rest =>
      have hd : c ≠ d := by simpa [LayoutItem.admits] using h d rfl
      simp [readItem?, hd, LayoutItem.isOptional]

end Stamp

end Relabel
