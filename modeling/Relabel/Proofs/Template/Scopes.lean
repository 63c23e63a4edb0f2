import Relabel.Proofs.Template.Submatches

/-!
# Indexes that count by a group

An index may name a group and a start, one behind the other, with nothing in between to tell their
digits apart. The group takes all of them. So an index that counts by a group starts at 1, and
writing a start behind the group gives an index that counts by another group (`scoped_start_iff`).
-/

namespace Relabel

/-- The digits of a start that is spelled behind a group go on with those of the group. -/
theorem IndexForm.spelling_start_behind_group (f : IndexForm) (digits start : Text) :
    spelling { f with group := some digits, start := start } =
      spelling { f with group := some (digits ++ start), start := [] } := by
  simp [spelling, spellGroup]

namespace Template

/-- The extraction from the template gives an index that counts by the group and starts with the
number. -/
def Starts (template : Text) (group : Nat) (start : Int) : Prop :=
  ∃ found token index, Submatches.extract template = .ok found ∧ token ∈ found ∧
    token.wanted = .index index ∧ index.group = some group ∧ index.start = start

theorem Starts.bounds (h : Starts template group start) : group ≤ largestCount ∧ start = 1 := by
  obtain ⟨found, token, index, hextract, htoken, hindex, hgroup, rfl⟩ := h
  have hbounds := inBounds_of_tokens (Submatches.extract_eq_ok_iff.mp hextract) htoken hindex
  exact hbounds.group group hgroup

theorem extract_of_written {i : Index} {f : IndexForm} (h : i.WrittenAs f) :
    Submatches.extract (Form.index f).spelling =
      .ok [⟨(Form.index f).spelling, .index i⟩] := by
  have hwritten : Variable.WrittenAs (.index i) (.index f) := .index h
  have hgroups : groups (Form.index f).spelling = [(Form.index f).body] := by
    simpa using groups_spelling hwritten.wellFormed Text.braceFree_nil Text.braceFree_nil
  exact Submatches.extract_eq_ok_iff.mpr (tokens_of_groups hwritten hgroups)

theorem exists_starts (hle : group ≤ largestCount) : ∃ template, Starts template group 1 := by
  have hone : 1 ≤ Index.largest := by decide
  have hbounds : Index.InBounds ⟨1, 1, 0, .decimal, [], some group⟩ :=
    { start := ⟨Int.one_nonneg, hone⟩
      step := ⟨Int.one_pos, hone⟩
      width := Nat.zero_le _
      skip := by simp
      group := by simpa using hle }
  exact ⟨_, _, _, _, extract_of_written hbounds.writtenAs, List.mem_singleton_self _, rfl, rfl, rfl⟩

theorem extract_start_behind_group {i : Index} {f : IndexForm} (h : i.WrittenAs f)
    (hgroup : f.group = some (digits ++ start)) :
    Submatches.extract (Form.index { f with group := some digits, start := start }).spelling =
      .ok [⟨(Form.index f).spelling, .index i⟩] := by
  obtain ⟨-, hstart⟩ := h.wellFormed.group _ hgroup
  have hform : f = { f with group := some (digits ++ start), start := [] } := by
    rw [← hgroup, ← hstart]
  have hspelling : (Form.index { f with group := some digits, start := start }).spelling =
      (Form.index f).spelling := by
    rw [hform]
    simp [Form.spelling, Form.body, Form.fields, IndexForm.spelling_start_behind_group]
  rw [hspelling]
  exact extract_of_written h

/-- Templates have an index that counts by a group just for the groups that can be numbered, and
with no start but 1. What is written as a start behind a group is read as part of the group. -/
theorem scoped_start_iff (group : Nat) (start : Int) :
    ((∃ template, Starts template group start) ↔ group ≤ largestCount ∧ start = 1) ∧
      ∀ (i : Index) (f : IndexForm) (digits startDigits : Text), i.WrittenAs f →
        f.group = some (digits ++ startDigits) →
          Submatches.extract
              (Form.index { f with group := some digits, start := startDigits }).spelling =
            .ok [⟨(Form.index f).spelling, .index i⟩] := by
  refine ⟨⟨?_, ?_⟩, fun i f digits startDigits h hgroup => ?_⟩
  · rintro ⟨template, hstarts⟩
    exact hstarts.bounds
  · rintro ⟨hle, rfl⟩
    exact exists_starts hle
  · exact extract_start_behind_group h hgroup

theorem scoped_start_iff_fifteen :
    (¬ ∃ template, Starts template 1 5) ∧
      Submatches.extract "{$15%02d}".toList = .ok [⟨"{$15%02d}".toList,
        .index ⟨1, 1, 2, .decimal, [], some 15⟩⟩] := by
  -- A start of 5 behind group 1 is read as group 15.
  obtain ⟨hstarts, hwritten⟩ := scoped_start_iff 1 5
  constructor
  · rw [hstarts]
    decide
  · have hgroup : Denotes "15".toList 15 := ⟨0, rfl⟩
    have hone : DenotesOr 1 [] 1 := .inr ⟨rfl, rfl⟩
    have hwidth : DenotesOr 0 "02".toList 2 := .inl ⟨1, rfl⟩
    have hindex : Index.WrittenAs ⟨1, 1, 2, .decimal, [], some 15⟩
        ⟨some "15".toList, [], "02".toList, .decimal, [], []⟩ :=
      .mk (.grouped hgroup (by decide)) hone (by decide) hone (by decide) (by decide) hwidth
        (by decide) .nil (by simp)
    have hextract := hwritten _ _ "1".toList "5".toList hindex rfl
    have hspelled : (Form.index ⟨some "1".toList, "5".toList, "02".toList, .decimal, [],
        []⟩).spelling = "{$15%02d}".toList := rfl
    have hread : (Form.index ⟨some "15".toList, [], "02".toList, .decimal, [], []⟩).spelling =
        "{$15%02d}".toList := rfl
    rw [hspelled, hread] at hextract
    exact hextract

theorem not_all_scoped_starts :
    ¬ ∀ (group : Nat) (start : Int), group ≤ largestCount → 0 ≤ start → start < Index.largest →
      ∃ template, Starts template group start := by
  intro hall
  obtain ⟨template, hstarts⟩ := hall 1 5 (by decide) (by decide) (by decide)
  obtain ⟨-, hfive⟩ := hstarts.bounds
  exact absurd hfive (by decide)

end Template

end Relabel
