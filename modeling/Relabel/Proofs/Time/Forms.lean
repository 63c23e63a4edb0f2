import Relabel.Proofs.Time.Stamp

/-!
# Layouts tell their forms apart

A layout reads back what is written in its own form (`read?_write`) and refuses a form that it
leaves before the end of either (`read?_of_refuses`). In the lists of layouts the first one that
does not refuse a form is the form itself, so no layout in front of it takes the text for something
else.
-/

namespace Relabel

namespace Layout

def opens : Layout → Text
  | [] => []
  | item :: _ => item.opens

def avoids (form : Layout) (p : Char → Bool) : Bool := form.opens.all (!p ·)

/-- No item goes on reading into what the next one has written. -/
def delimited : Layout → Bool
  | [] => true
  | item :: items => avoids items item.takes && delimited items

/-- The first item in which the layout differs from the form does not read what is written there. -/
def refuses : Layout → Layout → Bool
  | [], form => !form.isEmpty
  | item :: items, form =>
    if form.head? = some item && avoids form.tail item.takes then refuses items form.tail
    else avoids form item.admits && (!item.isOptional || refuses items form)

end Layout

namespace Stamp

open Layout

variable (s : Stamp)

@[simp] theorem write_nil : s.write [] = [] := rfl

@[simp] theorem write_cons (item : LayoutItem) (items : Layout) :
    s.write (item :: items) = s.part item ++ s.write items := rfl

theorem mem_opens_of_isDigit {c : Char} (h : c.isDigit) :
    c ∈ (List.range 10).map Nat.digitChar := by
  obtain ⟨hchar, hlt⟩ := digitChar_of_isDigit h
  exact List.mem_map.mpr ⟨_, List.mem_range.mpr hlt, hchar⟩

private theorem exists_part_eq_cons (item : LayoutItem) :
    ∃ c back, s.part item = c :: back ∧ c ∈ item.opens := by
  have hnumber {text : Text} {n : Nat} (h : text.number? = some n) :
      ∃ c back, text = c :: back ∧ c ∈ (List.range 10).map Nat.digitChar := by
    obtain ⟨c, back, rfl, hc⟩ := exists_cons_of_number? h
    exact ⟨c, back, rfl, mem_opens_of_isDigit hc⟩
  cases item with
  | year => exact hnumber (number?_yearText s.fourDigits.1 s.fourDigits.2).1
  | month | day | hour | minute | second => exact hnumber (number?_padded _)
  | fraction => exact ⟨'.', _, rfl, List.mem_cons_self⟩
  | offset => 
    refine ⟨_, _, rfl, ?_⟩
    cases s.west <;> decide
  | blank => exact ⟨' ', _, rfl, List.mem_cons_self⟩
  | char c => exact ⟨c, _, rfl, List.mem_cons_self⟩

theorem stops_write {form : Layout} {p : Char → Bool} (h : form.avoids p = true) :
    Stops p (s.write form) := by
  cases form with
  | nil => simp [Stops]
  | cons item items =>
    obtain ⟨c, back, hpart, hc⟩ := s.exists_part_eq_cons item
    have hp : p c = false := by simpa using List.all_eq_true.mp h c hc
    rw [write_cons, hpart]
    exact stops_cons hp _

theorem read?_write {form : Layout} (h : form.delimited = true) (r : Reading) :
    read? (s.write form) r form = some (form.foldl s.fill r) := by
  induction form generalizing r with
  | nil => rfl
  | cons item items ih =>
    obtain ⟨hnext, hitems⟩ := (Bool.and_eq_true _ _ ▸ h : _ ∧ _)
    have hitem := s.readItem?_part r item (s.stops_write hnext)
    rw [write_cons, read?, hitem]
    exact ih hitems _

theorem read?_of_refuses {layout form : Layout} (h : layout.refuses form = true) (r : Reading) :
    read? (s.write form) r layout = none := by
  induction layout generalizing form r with
  | nil =>
    cases form with
    | nil => simp [refuses] at h
    | cons item items =>
      obtain ⟨c, back, hpart, -⟩ := s.exists_part_eq_cons item
      rw [write_cons, hpart]
      rfl
  | cons item items ih =>
    rw [refuses] at h
    split at h
    case isTrue hsame =>
      obtain ⟨hhead, hnext⟩ := (Bool.and_eq_true _ _ ▸ hsame : _ ∧ _)
      cases form with
      | nil => simp at hhead
      | cons other form =>
        obtain rfl : other = item := by simpa using hhead
        rw [List.tail_cons] at h hnext
        rw [write_cons, read?, s.readItem?_part r other (s.stops_write hnext)]
        exact ih h _
    case isFalse =>
      obtain ⟨hstops, hrest⟩ := (Bool.and_eq_true _ _ ▸ h : _ ∧ _)
      rw [read?, readItem?_of_stops (s.stops_write hstops)]
      -- What is optional is absent, and the items behind it meet the same text.
      cases hoptional : item.isOptional with
      | false => rfl
      | true =>
        rw [hoptional] at hrest
        exact ih hrest _

end Stamp

-- ---------------------------------------------------------------------------
-- The lists of layouts
-- ---------------------------------------------------------------------------

def LayoutItem.endsInDigit : LayoutItem → Bool
  | .blank | .char _ => false
  | _ => true

def Layout.isTrimmed (form : Layout) : Bool :=
  form.avoids isBlank && form.getLast?.any (·.endsInDigit)

namespace Layout

theorem delimited_of_mem : ∀ form ∈ recorded ++ (named ++ dayOnly), form.delimited = true := by
  decide +kernel

theorem isTrimmed_of_mem :
    ∀ form ∈ recorded ++ (named ++ dayOnly), form.isTrimmed = true := by
  decide +kernel

private theorem find?_recorded : ∀ form ∈ recorded, recorded.find? (!·.refuses form) = some form := by
  decide +kernel

private theorem find?_others : ∀ form ∈ named ++ dayOnly, recorded.all (·.refuses form) = true ∧
    (named ++ dayOnly).find? (!·.refuses form) = some form := by
  decide +kernel

theorem findSome?_of_first {layouts : List Layout} {form : Layout} {f : Layout → Option α}
    (hfirst : layouts.find? (!·.refuses form) = some form)
    (hrefused : ∀ layout, layout.refuses form = true → f layout = none) (hform : f form = some a) :
    layouts.findSome? f = some a := by
  obtain ⟨-, before, after, rfl, hbefore⟩ := List.find?_eq_some_iff_append.mp hfirst
  have hnone : before.findSome? f = none := by
    refine List.findSome?_eq_none_iff.mpr fun layout hlayout => hrefused layout ?_
    simpa using hbefore layout hlayout
  rw [List.findSome?_append, hnone, List.findSome?_cons, hform]
  rfl

end Layout

namespace Stamp

open Layout

variable (s : Stamp)

private theorem exists_part_eq_append {item : LayoutItem} (h : item.endsInDigit = true) :
    ∃ front c, s.part item = front ++ [c] ∧ c.isDigit := by
  have hdigits {text : Text} (htext : text ≠ [] ∧ ∀ c ∈ text, c.isDigit) (front : Text) :
      ∃ front' c, front ++ text = front' ++ [c] ∧ c.isDigit :=
    ⟨front ++ text.dropLast, text.getLast htext.1,
      by rw [List.append_assoc, List.dropLast_concat_getLast], htext.2 _ (List.getLast_mem htext.1)⟩
  have hnumber {text : Text} {n : Nat} (htext : text.number? = some n) (front : Text) :
      ∃ front' c, front ++ text = front' ++ [c] ∧ c.isDigit :=
    hdigits (Text.number?_eq_some_iff.mp htext).1 front
  cases item with
  | year => exact hnumber (number?_yearText s.fourDigits.1 s.fourDigits.2).1 []
  | month | day | hour | minute | second => exact hnumber (number?_padded _) []
  | fraction => exact hdigits s.digits ['.']
  | offset =>
    obtain ⟨front, c, hfront, hc⟩ := hnumber (number?_padded s.minutes)
      ((if s.west then '-' else '+') :: (DateField.padded s.hours ++ [':']))
    refine ⟨front, c, ?_, hc⟩
    rw [← hfront]
    simp [part]
  | blank | char => simp [LayoutItem.endsInDigit] at h

theorem trim_write {form : Layout} (h : form.isTrimmed = true) :
    Text.trim (s.write form) = s.write form := by
  obtain ⟨hfront, hback⟩ := (Bool.and_eq_true _ _ ▸ h : _ ∧ _)
  refine trim_of_stops (s.stops_write hfront) ?_
  obtain ⟨item, hitem, hdigit⟩ := (Option.any_eq_true _ _).mp hback
  obtain ⟨items, rfl⟩ := List.getLast?_eq_some_iff.mp hitem
  obtain ⟨front, c, hpart, hc⟩ := s.exists_part_eq_append hdigit
  have hwrite : s.write (items ++ [item]) = s.write items ++ front ++ [c] := by
    rw [write, List.flatMap_append, List.flatMap_singleton, hpart, List.append_assoc]
    rfl
  rw [hwrite, List.reverse_append]
  exact stops_cons (isBlank_eq_false_of_isDigit hc) _

def reading (form : Layout) : Reading := form.foldl s.fill .start

theorem read?_reading {form : Layout} (h : form ∈ recorded ++ (named ++ dayOnly)) :
    read? (s.write form).trim .start form = some (s.reading form) := by
  rw [s.trim_write (isTrimmed_of_mem form h)]
  exact s.read?_write (delimited_of_mem form h) _

theorem read?_trim_of_refuses {layout form : Layout} (h : form ∈ recorded ++ (named ++ dayOnly))
    (hrefuses : layout.refuses form = true) : read? (s.write form).trim .start layout = none := by
  rw [s.trim_write (isTrimmed_of_mem form h)]
  exact s.read?_of_refuses hrefuses _

theorem readNamed?_recorded (hform : form ∈ recorded)
    (h : Moment.ofReading? zone (s.reading form) = some m) :
    Moment.readNamed? zone (s.write form) = some m := by
  have hmem : form ∈ recorded ++ (named ++ dayOnly) := List.mem_append_left _ hform
  have hrecorded : Moment.readRecorded? zone (s.write form) = some m := by
    refine findSome?_of_first (find?_recorded form hform) ?_ ?_
    · intro layout hrefuses
      rw [s.read?_trim_of_refuses hmem hrefuses]
      rfl
    · rw [s.read?_reading hmem]
      exact h
  rw [Moment.readNamed?, hrecorded]

theorem readNamed?_other (hform : form ∈ named ++ dayOnly)
    (hwall : (s.reading form).wallClock? = some wallClock) :
    Moment.readNamed? zone (s.write form) =
      Moment.ofWallClock? zone wallClock (s.reading form).allNanos := by
  have hmem : form ∈ recorded ++ (named ++ dayOnly) := List.mem_append_right _ hform
  obtain ⟨hrefused, hfirst⟩ := find?_others form hform
  have hrecorded : Moment.readRecorded? zone (s.write form) = none := by
    refine List.findSome?_eq_none_iff.mpr fun layout hlayout => ?_
    rw [s.read?_trim_of_refuses hmem (List.all_eq_true.mp hrefused layout hlayout)]
    rfl
  have hothers : (named ++ dayOnly).findSome? (fun layout =>
      (read? (s.write form).trim .start layout).filter (·.wallClock?.isSome)) =
      some (s.reading form) := by
    refine findSome?_of_first hfirst ?_ ?_
    · intro layout hrefuses
      rw [s.read?_trim_of_refuses hmem hrefuses]
      rfl
    · rw [s.read?_reading hmem, Option.filter_some, hwall]
      rfl
  rw [Moment.readNamed?, hrecorded]
  simp only [hothers, hwall, Option.bind_some]

end Stamp

end Relabel
