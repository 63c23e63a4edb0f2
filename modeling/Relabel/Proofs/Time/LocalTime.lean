import Relabel.Proofs.Time.Turns

/-!
# Wall-clock times that are shown once

Two stretches of wall-clock time are special where the clock is turned: one that no moment shows and
one that two moments show. Any other wall-clock time leads back to the offset of the one moment that
shows it, apart from the second at which the clock is put back, which counts with the time that comes
twice (`offsetOfLocal?_wallClock`).
-/

namespace Relabel

/-- No other moment shows the same wall-clock time. -/
def Zone.ShownOnce (zone : Zone) (unix : Int) : Prop :=
  ∀ other, other + zone.offsetAt other = unix + zone.offsetAt unix → other = unix

namespace Daylight

variable {d : Daylight}

-- ---------------------------------------------------------------------------
-- The offset of a wall-clock time
-- ---------------------------------------------------------------------------

section

variable (hne : d.standard ≠ d.daylight) (hyear : clockYear wallClock = year)
include hne hyear

private theorem offsetOfLocal?_of_forwardFirst (hmonths : d.PutsForwardFirst year) :
    d.offsetOfLocal? wallClock =
      if wallClock ≤ d.forward.secondsIn year then some d.low
      else if wallClock < d.forward.secondsIn year + d.shift then none
      else if wallClock < d.back.secondsIn year - d.shift then some d.high
      else if wallClock ≤ d.back.secondsIn year then none
      else some d.low := by
  subst hyear
  exact (if_neg hne).trans (if_pos hmonths)

private theorem offsetOfLocal?_of_backFirst (hmonths : ¬ d.PutsForwardFirst year) :
    d.offsetOfLocal? wallClock =
      if wallClock < d.back.secondsIn year - d.shift then some d.high
      else if wallClock ≤ d.back.secondsIn year then none
      else if wallClock < d.forward.secondsIn year then some d.low
      else if wallClock < d.forward.secondsIn year + d.shift then none
      else some d.high := by
  subst hyear
  exact (if_neg hne).trans (if_neg hmonths)

end

private theorem low_or_high (d : Daylight) (unix : Int) : d.offsetAt unix = d.low ∨ d.offsetAt unix = d.high := by
  have h := d.offsetAt_mem unix
  simp only [List.mem_cons, List.not_mem_nil, or_false] at h
  rw [low, high]
  omega

private theorem offsetAt_later {unix : Int} (honce : (Zone.seasonal d).ShownOnce unix)
    (hne : d.standard ≠ d.daylight) (h : d.offsetAt unix = d.high) :
    d.offsetAt (unix + d.shift) = d.high := by
  refine (d.low_or_high _).resolve_left fun hlow => ?_
  have hsame : unix + d.shift + d.offsetAt (unix + d.shift) = unix + d.offsetAt unix := by
    have := d.low_add_shift
    omega
  have := honce (unix + d.shift) hsame
  have := shift_pos hne
  omega

private theorem offsetAt_earlier {unix : Int} (honce : (Zone.seasonal d).ShownOnce unix)
    (hne : d.standard ≠ d.daylight) (h : d.offsetAt unix = d.low) :
    d.offsetAt (unix - d.shift) = d.low := by
  refine (d.low_or_high _).resolve_right fun hhigh => ?_
  have hsame : unix - d.shift + d.offsetAt (unix - d.shift) = unix + d.offsetAt unix := by
    have := d.low_add_shift
    omega
  have := honce (unix - d.shift) hsame
  have := shift_pos hne
  omega

/-- The clock, when it comes to this wall-clock time, is put back from it. -/
def PutsBackAt (d : Daylight) (wallClock : Int) : Prop :=
  d.standard ≠ d.daylight ∧ wallClock = d.back.secondsIn (clockYear wallClock)

instance (d : Daylight) (wallClock : Int) : Decidable (d.PutsBackAt wallClock) :=
  inferInstanceAs (Decidable (_ ∧ _))

section WallClock

variable (hne : d.standard ≠ d.daylight) {unix : Int} (honce : (Zone.seasonal d).ShownOnce unix)
include hne honce

-- Each of the four lemmas also looks at the moment at which the other offset would show the same
-- time: it has the same offset, as the time is shown once, so it lies on the same side of all turns.

private theorem forwardFirst_high (hmonths : ∀ year, d.PutsForwardFirst year)
    (h : d.TurnsApart d.forwardAt d.backAt)
    (hunix : d.forwardAt year ≤ unix ∧ unix < d.backAt year) (hoffset : d.offsetAt unix = d.high) :
    d.offsetOfLocal? (unix + d.high) = some d.high := by
  have hpos := shift_pos hne
  have hshift := d.low_add_shift
  have hlater := offsetAt_later honce hne hoffset
  rcases offsetAt_of_forwardFirst hne h (unix + d.shift) with ⟨⟨year', hother⟩, -⟩ | ⟨-, hlow⟩
  case inr => omega
  obtain rfl := h.same_year hne rfl hunix hother
  have hf : d.forwardAt year' = d.forward.secondsIn year' - d.low := rfl
  have hb : d.backAt year' = d.back.secondsIn year' - d.high := rfl
  have hyear : clockYear (unix + d.high) = year' := by
    have := d.newYear_le_forwardAt year'
    have := h.endsInYear year'
    exact clockYear_eq_iff.mpr (by omega)
  rw [offsetOfLocal?_of_forwardFirst hne hyear (hmonths year'), if_neg (by omega),
    if_neg (by omega), if_pos (by omega)]

private theorem forwardFirst_low (hmonths : ∀ year, d.PutsForwardFirst year)
    (h : d.TurnsApart d.forwardAt d.backAt) (hback : ¬ d.PutsBackAt (unix + d.low))
    (hunix : ∀ year, ¬ (d.forwardAt year ≤ unix ∧ unix < d.backAt year))
    (hoffset : d.offsetAt unix = d.low) :
    d.offsetOfLocal? (unix + d.low) = some d.low := by
  have hpos := shift_pos hne
  have hshift := d.low_add_shift
  have hearlier := offsetAt_earlier honce hne hoffset
  rcases offsetAt_of_forwardFirst hne h (unix - d.shift) with ⟨-, hhigh⟩ | ⟨hother, -⟩
  case inl => omega
  obtain ⟨year, hyear⟩ : ∃ year, clockYear (unix + d.low) = year := ⟨_, rfl⟩
  have hf : d.forwardAt year = d.forward.secondsIn year - d.low := rfl
  have hb : d.backAt year = d.back.secondsIn year - d.high := rfl
  have hback : unix + d.low ≠ d.back.secondsIn year := fun heq => hback ⟨hne, hyear ▸ heq⟩
  have hlasts := h.firstLasts year
  have hunix := hunix year
  have hother := hother year
  rw [offsetOfLocal?_of_forwardFirst hne hyear (hmonths year)]
  rcases Int.lt_or_le unix (d.forwardAt year) with hbefore | hafter
  · rw [if_pos (by omega)]
  · rw [if_neg (by omega), if_neg (by omega), if_neg (by omega), if_neg (by omega)]

private theorem backFirst_low (hmonths : ∀ year, ¬ d.PutsForwardFirst year)
    (h : d.TurnsApart d.backAt d.forwardAt) (hback : ¬ d.PutsBackAt (unix + d.low))
    (hunix : d.backAt year ≤ unix ∧ unix < d.forwardAt year) (hoffset : d.offsetAt unix = d.low) :
    d.offsetOfLocal? (unix + d.low) = some d.low := by
  have hpos := shift_pos hne
  have hshift := d.low_add_shift
  have hearlier := offsetAt_earlier honce hne hoffset
  rcases offsetAt_of_backFirst hne h (unix - d.shift) with ⟨⟨year', hother⟩, -⟩ | ⟨-, hhigh⟩
  case inr => omega
  obtain rfl := h.same_year hne (Int.sub_add_cancel ..).symm hother hunix
  have hf : d.forwardAt year = d.forward.secondsIn year - d.low := rfl
  have hb : d.backAt year = d.back.secondsIn year - d.high := rfl
  have hyear : clockYear (unix + d.low) = year := by
    have := d.newYear_le_backAt year
    have := h.endsInYear year
    exact clockYear_eq_iff.mpr (by omega)
  have hback : unix + d.low ≠ d.back.secondsIn year := fun heq => hback ⟨hne, hyear ▸ heq⟩
  rw [offsetOfLocal?_of_backFirst hne hyear (hmonths year), if_neg (by omega), if_neg (by omega),
    if_pos (by omega)]

private theorem backFirst_high (hmonths : ∀ year, ¬ d.PutsForwardFirst year)
    (h : d.TurnsApart d.backAt d.forwardAt)
    (hunix : ∀ year, ¬ (d.backAt year ≤ unix ∧ unix < d.forwardAt year))
    (hoffset : d.offsetAt unix = d.high) :
    d.offsetOfLocal? (unix + d.high) = some d.high := by
  have hpos := shift_pos hne
  have hshift := d.low_add_shift
  have hlater := offsetAt_later honce hne hoffset
  rcases offsetAt_of_backFirst hne h (unix + d.shift) with ⟨-, hlow⟩ | ⟨hother, -⟩
  case inl => omega
  obtain ⟨year, hyear⟩ : ∃ year, clockYear (unix + d.high) = year := ⟨_, rfl⟩
  have hf : d.forwardAt year = d.forward.secondsIn year - d.low := rfl
  have hb : d.backAt year = d.back.secondsIn year - d.high := rfl
  have hlasts := h.firstLasts year
  have hunix := hunix year
  have hother := hother year
  rw [offsetOfLocal?_of_backFirst hne hyear (hmonths year)]
  rcases Int.lt_or_le (unix + d.shift) (d.backAt year) with hbefore | hafter
  · rw [if_pos (by omega)]
  · rw [if_neg (by omega), if_neg (by omega), if_neg (by omega), if_neg (by omega)]

end WallClock

theorem offsetOfLocal?_wallClock (hd : d.Regular) {unix : Int} (honce : (Zone.seasonal d).ShownOnce unix)
    (hback : ¬ d.PutsBackAt (unix + d.offsetAt unix)) :
    d.offsetOfLocal? (unix + d.offsetAt unix) = some (d.offsetAt unix) := by
  by_cases hne : d.standard = d.daylight
  · have hoffset : d.offsetAt unix = d.standard := by
      have := d.low_or_high unix
      rw [low, high] at this
      omega
    rw [hoffset]
    exact if_pos hne
  · cases hd with
    | level same => exact absurd same hne
    | forwardFirst months apart =>
      rcases offsetAt_of_forwardFirst hne apart unix with ⟨⟨year, hunix⟩, hoffset⟩ | ⟨hunix, hoffset⟩
      · rw [hoffset]
        exact forwardFirst_high hne honce months apart hunix hoffset
      · rw [hoffset] at hback ⊢
        exact forwardFirst_low hne honce months apart hback hunix hoffset
    | backFirst months apart =>
      rcases offsetAt_of_backFirst hne apart unix with ⟨⟨year, hunix⟩, hoffset⟩ | ⟨hunix, hoffset⟩
      · rw [hoffset] at hback ⊢
        exact backFirst_low hne honce months apart hback hunix hoffset
      · rw [hoffset]
        exact backFirst_high hne honce months apart hunix hoffset

end Daylight

-- ---------------------------------------------------------------------------
-- Zones
-- ---------------------------------------------------------------------------

namespace Zone

def Regular : Zone → Prop
  | fixed .. => True
  | seasonal d => d.Regular

/-- The clock, when it comes to this wall-clock time, is put back from it. -/
def PutsBackAt (zone : Zone) (wallClock : Int) : Prop :=
  match zone with
  | fixed .. => False
  | seasonal d => d.PutsBackAt wallClock

instance (zone : Zone) (wallClock : Int) : Decidable (zone.PutsBackAt wallClock) :=
  match zone with
  | fixed .. => inferInstanceAs (Decidable False)
  | seasonal d => inferInstanceAs (Decidable (d.PutsBackAt wallClock))

def offsets : Zone → List Int
  | fixed offset _ => [offset]
  | seasonal d => [d.standard, d.daylight]

theorem offsetAt_mem (zone : Zone) (unix : Int) : zone.offsetAt unix ∈ zone.offsets := by
  cases zone with
  | fixed => exact List.mem_cons_self
  | seasonal d => exact d.offsetAt_mem unix

theorem belowDay_offsetAt (zone : Zone) (unix : Int) : BelowDay (zone.offsetAt unix) := by
  cases zone with
  | fixed _ belowDay => exact belowDay
  | seasonal d =>
    rw [offsetAt]
    rcases d.low_or_high unix with h | h
    · rw [h]; exact d.low_bounds
    · rw [h]; exact d.high_bounds

theorem shownOnce_iff {zone : Zone} : zone.ShownOnce unix ↔ ∀ offset ∈ zone.offsets,
    zone.offsetAt (unix + zone.offsetAt unix - offset) = offset → offset = zone.offsetAt unix := by
  constructor
  case mp =>
    intro honce offset _ h
    have := honce (unix + zone.offsetAt unix - offset) (by omega)
    omega
  case mpr =>
    intro h other hother
    have hunix : unix + zone.offsetAt unix - zone.offsetAt other = other := by omega
    have := h (zone.offsetAt other) (zone.offsetAt_mem other) (by rw [hunix])
    omega

instance (zone : Zone) (unix : Int) : Decidable (zone.ShownOnce unix) :=
  decidable_of_iff _ shownOnce_iff.symm

theorem offsetOfLocal?_wallClock {zone : Zone} (hz : zone.Regular) (honce : zone.ShownOnce unix)
    (hback : ¬ zone.PutsBackAt (unix + zone.offsetAt unix)) :
    zone.offsetOfLocal? (unix + zone.offsetAt unix) = some (zone.offsetAt unix) := by
  cases zone with
  | fixed => rfl
  | seasonal d => exact Daylight.offsetOfLocal?_wallClock hz honce hback

/-- The zone `EST5EDT,M3.2.0,M11.1.0`. -/
def eastern : Zone := .seasonal
  { standard := -18000
    daylight := -14400
    begins := ⟨.weekday 3 2 0 (by decide), 7200⟩
    ends := ⟨.weekday 11 1 0 (by decide), 7200⟩
    belowDay := by decide }

theorem regular_eastern : eastern.Regular :=
  Daylight.regular_of_months (fun _ => rfl) (fun _ => rfl) (.inl (by decide)) (by decide)

/-- The zone `CST5CDT,M3.2.0/0,M11.1.0/1`, where the clock is put back to midnight. -/
def midnightTurns : Zone := .seasonal
  { standard := -18000
    daylight := -14400
    begins := ⟨.weekday 3 2 0 (by decide), 0⟩
    ends := ⟨.weekday 11 1 0 (by decide), 3600⟩
    belowDay := by decide }

theorem regular_midnightTurns : midnightTurns.Regular :=
  Daylight.regular_of_months (fun _ => rfl) (fun _ => rfl) (.inl (by decide)) (by decide)

/-- The zone `AEST-10AEDT,M10.1.0,M4.1.0/3`, where daylight time runs over the new year. -/
def southern : Zone := .seasonal
  { standard := 36000
    daylight := 39600
    begins := ⟨.weekday 10 1 0 (by decide), 7200⟩
    ends := ⟨.weekday 4 1 0 (by decide), 10800⟩
    belowDay := by decide }

theorem regular_southern : southern.Regular :=
  Daylight.regular_of_months (fun _ => rfl) (fun _ => rfl) (.inr (by decide)) (by decide)

end Zone

end Relabel
