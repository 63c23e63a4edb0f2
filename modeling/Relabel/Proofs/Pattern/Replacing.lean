import Relabel.Pattern.Replacement
import Relabel.Pattern.Search

/-!
# Replacing by a limit

The matches of a text lie in it from left to right and do not overlap (`inOrder_allMatches`), so the
matches and the gaps around them make up the text. A replacement goes over the matches that its
limit selects and never looks at the others; what comes of it is the text woven again from the same
gaps, with the selected matches expanded and the others as they were: `replace_eq_weave`.
-/

namespace Relabel

-- ---------------------------------------------------------------------------
-- Where matches lie
-- ---------------------------------------------------------------------------

theorem Program.stop_of_run {p : Program} {text : Text} {best : Option (Nat × Marks)}
    (h : p.run before position arrivals best text = some found) (hlow : low ≤ position)
    (hbest : ∀ b ∈ best, low ≤ b.1 ∧ b.1 ≤ position) :
    low ≤ found.1 ∧ found.1 ≤ position + text.length := by
  -- What is found at a place replaces what was found before, and both lie where they may.
  have hbetter {position : Nat} {best : Option (Nat × Marks)} (ended : Option Thread)
      (hlow : low ≤ position) (hbest : ∀ b ∈ best, low ≤ b.1 ∧ b.1 ≤ position) :
      ∀ b ∈ (ended.map fun t => (position, t.marks)) <|> best, low ≤ b.1 ∧ b.1 ≤ position := by
    cases ended with
    | none => exact hbest
    | some t =>
      rintro b ⟨⟩
      exact ⟨hlow, Nat.le_refl _⟩
  induction text generalizing before position arrivals best with
  | nil => exact hbetter _ hlow hbest found h
  | cons c rest ih =>
    simp only [run] at h
    have hnext := hbetter ((p.threadsAt ⟨before, some c, position⟩ arrivals []).find? Thread.ended)
      hlow hbest
    rw [List.length_cons]
    split at h
    case h_1 =>
      have hfound := hnext found h
      omega
    case h_2 =>
      have hfound := ih h (by omega) fun b hb => by
        have hb := hnext b hb
        omega
      omega

theorem Program.span_of_search {p : Program} {text : Text}
    (h : p.search before position text = some found) : position ≤ found.1.start ∧
      found.1.start ≤ found.1.stop ∧ found.1.stop ≤ position + text.length := by
  have hrun {stop : Nat} {marks : Marks} {text : Text} {position : Nat} {before : Option Char}
      (hfound : p.run before position [(p.start, [])] none text = some (stop, marks)) :
      position ≤ stop ∧ stop ≤ position + text.length :=
    stop_of_run hfound (Nat.le_refl _) (by simp)
  induction text generalizing before position with
  | nil =>
    unfold search at h
    split at h
    case h_1 stop marks hfound =>
      obtain rfl := Option.some.inj h
      exact ⟨Nat.le_refl _, hrun hfound⟩
    case h_2 => cases h
  | cons c rest ih =>
    unfold search at h
    split at h
    case h_1 stop marks hfound =>
      obtain rfl := Option.some.inj h
      exact ⟨Nat.le_refl _, hrun hfound⟩
    case h_2 =>
      have hlater := ih h
      rw [List.length_cons]
      omega

namespace Pattern

variable {p : Pattern} {whole : Text} {m : Match}

theorem span_of_find? (h : p.find? whole position = some m) : position ≤ m.span.start ∧
    m.span.start ≤ m.span.stop ∧ m.span.stop ≤ whole.length := by
  unfold find? at h
  split at h
  case isTrue => cases h
  case isFalse hposition =>
    obtain ⟨found, hfound, rfl⟩ := Option.map_eq_some_iff.mp h
    have hspan := Program.span_of_search hfound
    rw [List.length_drop] at hspan
    refine ⟨hspan.1, hspan.2.1, ?_⟩
    show found.1.stop ≤ whole.length
    omega

theorem span_of_next? (h : p.next? whole position lastStop = some m) : position ≤ m.span.start ∧
    m.span.start ≤ m.span.stop ∧ m.span.stop ≤ whole.length := by
  unfold next? at h
  split at h
  case h_2 => cases h
  case h_1 found hfound =>
    split at h
    case isTrue =>
      have hspan := span_of_find? h
      omega
    case isFalse => exact Option.some.inj h ▸ span_of_find? hfound

end Pattern

inductive InOrder (whole : Text) : Nat → List Match → Prop
  | nil (position : Nat) : InOrder whole position []
  | cons {position : Nat} {m : Match} {rest : List Match} (hstart : position ≤ m.span.start)
      (hspan : m.span.start ≤ m.span.stop) (hstop : m.span.stop ≤ whole.length)
      (hrest : InOrder whole m.span.stop rest) : InOrder whole position (m :: rest)

theorem InOrder.mono {ms : List Match} (h : InOrder whole position ms) (hle : earlier ≤ position) :
    InOrder whole earlier ms := by
  cases h with
  | nil => exact .nil earlier
  | cons hstart hspan hstop hrest => exact .cons (Nat.le_trans hle hstart) hspan hstop hrest

theorem InOrder.le_start {ms : List Match} (h : InOrder whole position ms) (hm : m ∈ ms) :
    position ≤ m.span.start := by
  induction h with
  | nil => cases hm
  | cons hstart hspan hstop hrest ih =>
    rcases List.mem_cons.mp hm with rfl | hm
    · exact hstart
    · exact Nat.le_trans (Nat.le_trans hstart hspan) (ih hm)

theorem inOrder_matchesFrom (p : Pattern) (whole : Text) (bound position : Nat)
    (lastStop : Option Nat) :
    InOrder whole position (p.matchesFrom whole bound position lastStop) := by
  induction bound generalizing position lastStop with
  | zero => exact .nil position
  | succ bound ih =>
    rw [Pattern.matchesFrom]
    split
    case h_1 => exact .nil position
    case h_2 m hm =>
      obtain ⟨hstart, hspan, hstop⟩ := Pattern.span_of_next? hm
      refine .cons hstart hspan hstop ((ih _ _).mono ?_)
      split <;> omega

theorem inOrder_allMatches (p : Pattern) (whole : Text) : InOrder whole 0 (p.allMatches whole) :=
  inOrder_matchesFrom p whole _ 0 none

-- ---------------------------------------------------------------------------
-- Gaps and matches
-- ---------------------------------------------------------------------------

theorem Span.text_append (hfirst : a ≤ b) (hsecond : b ≤ c) (whole : Text) :
    Span.text ⟨a, b⟩ whole ++ Span.text ⟨b, c⟩ whole = Span.text ⟨a, c⟩ whole := by
  have hsum : c - a = (b - a) + (c - b) := by omega
  have hplace : a + (b - a) = b := by omega
  simp only [Span.text]
  rw [hsum, List.take_add, List.drop_drop, hplace]

theorem Span.text_append_drop (h : a ≤ b) (whole : Text) :
    Span.text ⟨a, b⟩ whole ++ whole.drop b = whole.drop a := by
  have hplace : a + (b - a) = b := by omega
  rw [Span.text, ← hplace, ← List.drop_drop, hplace, List.take_append_drop]

/-- The texts in front of the first match, between each two and behind the last. -/
def gaps (whole : Text) (position : Nat) : List Match → List Text
  | [] => [whole.drop position]
  | m :: rest => Span.text ⟨position, m.span.start⟩ whole :: gaps whole m.span.stop rest

/-- Gaps with pieces between each two. -/
def weave : List Text → List Text → Text
  | [], _ => []
  | gap :: _, [] => gap
  | gap :: gaps, piece :: pieces => gap ++ piece ++ weave gaps pieces

theorem weave_gaps {ms : List Match} (h : InOrder whole position ms) :
    weave (gaps whole position ms) (ms.map (·.span.text whole)) = whole.drop position := by
  induction h with
  | nil => rfl
  | @cons position m rest hstart hspan hstop hrest ih =>
    rw [gaps, List.map_cons, weave, ih, Span.text_append hstart hspan,
      Span.text_append_drop (Nat.le_trans hstart hspan)]

-- ---------------------------------------------------------------------------
-- Selected matches
-- ---------------------------------------------------------------------------

def chosenOf (chosen : Nat → Bool) : List α → List α
  | [] => []
  | a :: items =>
    let rest := chosenOf (fun i => chosen (i + 1)) items
    if chosen 0 then a :: rest else rest

theorem mem_of_mem_chosenOf {chosen : Nat → Bool} {items : List α} (h : a ∈ chosenOf chosen items) :
    a ∈ items := by
  induction items generalizing chosen with
  | nil => cases h
  | cons b items ih =>
    rw [chosenOf] at h
    split at h
    · rcases List.mem_cons.mp h with rfl | h
      · exact List.mem_cons_self
      · exact List.mem_cons_of_mem _ (ih h)
    · exact List.mem_cons_of_mem _ (ih h)

private theorem chosenOf_all (items : List α) : chosenOf (fun _ => true) items = items := by
  induction items with
  | nil => rfl
  | cons a items ih => rw [chosenOf, if_pos rfl, ih]

private theorem chosenOf_lt (k : Nat) (items : List α) :
    chosenOf (fun i => decide (i < k)) items = items.take k := by
  induction items generalizing k with
  | nil => simp [chosenOf]
  | cons a items ih =>
    cases k with
    | zero => simpa [chosenOf] using ih 0
    | succ k => simpa [chosenOf] using ih k

private theorem chosenOf_ge (k : Nat) (items : List α) :
    chosenOf (fun i => decide (k ≤ i)) items = items.drop k := by
  induction items generalizing k with
  | nil => simp [chosenOf]
  | cons a items ih =>
    cases k with
    | zero => simpa [chosenOf] using ih 0
    | succ k => simpa [chosenOf] using ih k

/-- Whether a limit selects the match with this number, counted from 0, among so many. -/
def inWindow (limit : Int) (count i : Nat) : Bool :=
  if limit = 0 then true
  else if 0 < limit then decide (i < min limit.toNat count)
  else decide (count - min limit.natAbs count ≤ i)

theorem selectByLimit_eq_chosenOf (limit : Int) (items : List α) :
    selectByLimit limit items = chosenOf (inWindow limit items.length) items := by
  unfold selectByLimit inWindow
  split
  case isTrue => exact (chosenOf_all items).symm
  case isFalse =>
    split
    case isTrue =>
      rw [chosenOf_lt]
      exact List.take_eq_take_min
    case isFalse =>
      rw [chosenOf_ge, show items.length - min limit.natAbs items.length =
        items.length - limit.natAbs by omega]

theorem selectByLimit_of_length_le {items : List α} (h : items.length ≤ limit.natAbs) :
    selectByLimit limit items = items := by
  unfold selectByLimit
  split
  case isTrue => rfl
  case isFalse =>
    split
    case isTrue => exact List.take_of_length_le (by omega)
    case isFalse => rw [Nat.sub_eq_zero_of_le h, List.drop_zero]

-- ---------------------------------------------------------------------------
-- Splicing
-- ---------------------------------------------------------------------------

theorem text_append_spliceFrom {ms : List Match} (hle : position ≤ next)
    (h : ∀ m ∈ ms, next ≤ m.span.start) (replaced : Match → Text) (whole : Text) :
    Span.text ⟨position, next⟩ whole ++ spliceFrom replaced whole next ms =
      spliceFrom replaced whole position ms := by
  cases ms with
  | nil => exact Span.text_append_drop hle whole
  | cons m rest =>
    rw [spliceFrom, spliceFrom, ← Span.text_append hle (h m List.mem_cons_self)]
    simp only [List.append_assoc]

/-- A match that is not chosen is part of the text that is copied. -/
theorem spliceFrom_chosenOf {ms : List Match} (h : InOrder whole position ms)
    (replaced : Match → Text) (chosen : Nat → Bool) :
    spliceFrom replaced whole position (chosenOf chosen ms) =
      weave (gaps whole position ms)
        (ms.mapIdx fun i m => if chosen i then replaced m else m.span.text whole) := by
  induction h generalizing chosen with
  | nil => rfl
  | @cons position m rest hstart hspan hstop hrest ih =>
    have hih := ih fun i => chosen (i + 1)
    rw [gaps, List.mapIdx_cons, weave, ← hih, chosenOf]
    by_cases hchosen : chosen 0
    · rw [if_pos hchosen, if_pos hchosen, spliceFrom]
    · rw [if_neg hchosen, if_neg hchosen, Span.text_append hstart hspan]
      -- A match that is not chosen melts into the gap, up to the next one that is.
      have hbehind : ∀ m' ∈ chosenOf (fun i => chosen (i + 1)) rest, m.span.stop ≤ m'.span.start :=
        fun m' hm' => hrest.le_start (mem_of_mem_chosenOf hm')
      exact (text_append_spliceFrom (Nat.le_trans hstart hspan) hbehind replaced whole).symm

theorem Match.expand_whole (m : Match) (names : List (Text × Nat)) (whole : Text) :
    m.expand names whole "$0".toList = m.span.text whole := by
  have hpieces : Expansion.pieces "$0".toList = [.reference ['0']] := by decide
  have hnumber : Expansion.groupNumber? names ['0'] = some 0 := by
    have hread : Text.signedNumberUpTo? Expansion.largestNumber ['0'] = some 0 := by decide
    rw [Expansion.groupNumber?, hread]
  rw [Match.expand, hpieces, List.flatMap_singleton, Expansion.Piece.expand, hnumber]
  rfl

-- ---------------------------------------------------------------------------
-- The whole replacement
-- ---------------------------------------------------------------------------

/-- A replacement is one splice, whatever its limit: all gaps are copied, and of the matches just
those in the window of the limit give way to the replacement, each with its own groups in it. -/
theorem replace_eq_weave (p : Pattern) (limit : Int) (replacement whole : Text) :
    InOrder whole 0 (p.allMatches whole) ∧
    weave (gaps whole 0 (p.allMatches whole)) ((p.allMatches whole).map (·.span.text whole)) =
      whole ∧
    p.replace limit replacement whole = weave (gaps whole 0 (p.allMatches whole))
      ((p.allMatches whole).mapIdx fun i m =>
        if inWindow limit (p.allMatches whole).length i then m.expand p.names whole replacement
        else m.span.text whole) ∧
    ((p.allMatches whole).length ≤ limit.natAbs →
      p.replace limit replacement whole = p.replace 0 replacement whole) ∧
    p.replace limit "$0".toList whole = whole := by
  have horder := inOrder_allMatches p whole
  have hwhole := weave_gaps horder
  have hsplice (replaced : Match → Text) :
      spliceFrom replaced whole 0 (selectByLimit limit (p.allMatches whole)) =
        weave (gaps whole 0 (p.allMatches whole)) ((p.allMatches whole).mapIdx fun i m =>
          if inWindow limit (p.allMatches whole).length i then replaced m
          else m.span.text whole) := by
    rw [selectByLimit_eq_chosenOf, spliceFrom_chosenOf horder]
  refine ⟨horder, hwhole, hsplice _, fun hall => ?_, ?_⟩
  · rw [Pattern.replace, Pattern.replace, selectByLimit_of_length_le hall, selectByLimit_zero]
  · -- A match that gives way to itself is as good as one that is left alone.
    have hsame : ((p.allMatches whole).mapIdx fun _ m => m.span.text whole) =
        (p.allMatches whole).map (·.span.text whole) :=
      List.ext_getElem (by simp) (by simp)
    simp only [Pattern.replace, hsplice, Match.expand_whole, ite_self, hsame]
    exact hwhole

def lettersX : Pattern :=
  match Pattern.compile ⟨false, false⟩ "x*".toList with
  | .ok p => p
  | .error _ => .wholeText

theorem replace_eq_weave_lettersX :
    lettersX.replace (-2) "<$0>".toList "axb".toList = "a<x>b<>".toList ∧
      (lettersX.allMatches "axb".toList).length ≤ (-9223372036854775808 : Int).natAbs ∧
      lettersX.replace (-9223372036854775808) "<$0>".toList "axb".toList =
        lettersX.replace 0 "<$0>".toList "axb".toList := by
  -- The last two of three matches, one of them empty, and the limit with the greatest magnitude.
  have hlength : (lettersX.allMatches "axb".toList).length ≤
      (-9223372036854775808 : Int).natAbs := by decide +kernel
  refine ⟨?_, hlength, (replace_eq_weave lettersX _ _ _).2.2.2.1 hlength⟩
  rw [(replace_eq_weave lettersX (-2) _ _).2.2.1]
  decide +kernel

end Relabel
