import Relabel.Pattern.Search
import Relabel.Proofs.Pattern.Expansion
import Relabel.Proofs.Pattern.Finding
import Relabel.Proofs.Pattern.Replacing
import Relabel.Proofs.Pattern.Taking
import Relabel.Proofs.Text.Occurrence

/-!
# Plain texts as patterns

A text in which all special characters are escaped reads as the pattern of the text itself
(`read_escape`). What this pattern finds are the occurrences of the text, taken from the left so
that they do not overlap (`leftmost_iff`), and replacing them is replacing a piece of text
(`findsText_literal`).
-/

namespace Relabel

-- ---------------------------------------------------------------------------
-- Escaping
-- ---------------------------------------------------------------------------

namespace Expr

theorem tidy_literal (ignoreCase : Bool) (text : Text) : (literal ignoreCase text).Tidy := by
  induction text with
  | nil => trivial
  | cons c cs ih =>
    cases cs with
    | nil => trivial
    | cons d ds => exact ⟨trivial, ih⟩

theorem weight_literal (ignoreCase : Bool) (text : Text) :
    (literal ignoreCase text).weight = text.length := by
  induction text with
  | nil => rfl
  | cons c cs ih =>
    cases cs with
    | nil => rfl
    | cons d ds =>
      show 1 + (literal ignoreCase (d :: ds)).weight = (d :: ds).length + 1
      rw [ih, Nat.add_comm]

end Expr

namespace Pattern

open PatternReader Escape

def escape (text : Text) : Text := text.flatMap fun c => if isMeta c then ['\\', c] else [c]

theorem escape_cons (c : Char) (cs : Text) :
    escape (c :: cs) = (if isMeta c then ['\\', c] else [c]) ++ escape cs := rfl

theorem escape_eq_self (h : text.all (!isMeta ·) = true) : escape text = text := by
  induction text with
  | nil => rfl
  | cons c cs ih =>
    obtain ⟨hc, hcs⟩ : isMeta c = false ∧ cs.all (!isMeta ·) = true := by simpa using h
    rw [escape_cons, ih hcs, if_neg (by simp [hc])]
    rfl

private theorem next_of_not_meta (s : State) (h : isMeta c = false) (rest : Text) :
    s.next c rest = .ok (s.addChar c, rest) := by
  unfold State.next
  split
  case h_13 => rfl
  -- Every other case is for a character that would have been escaped.
  all_goals exact absurd h (by decide)

private theorem next_escaped (s : State) (h : isMeta c = true) (rest : Text) :
    s.next '\\' (c :: rest) = .ok (s.addChar c, rest) := by
  have hdigit : c.isDigit = false := by
    have hall : "\\.+*?()|[]\x7b\x7d^$#&-~".toList.all (!·.isDigit) = true := by decide
    simpa using List.all_eq_true.mp hall c (List.contains_iff_mem.mp h)
  have hread : Escape.read s.flags (c :: rest) = .ok (.char c, rest) := by
    simp [Escape.read, hdigit, isEscapable, h]
  show (Escape.read s.flags (c :: rest) >>= _) = _
  rw [hread]
  rfl

theorem readAll_next {s made : State} (hflags : s.flags.extended = false)
    (h : s.next c rest = .ok (made, behind)) (bound : Nat) :
    s.readAll (bound + 1) (c :: rest) = made.readAll bound behind := by
  simp only [State.readAll, hflags, Bracket.skipBlanks, Bool.false_and, Bool.false_eq_true,
    if_false, h]
  rfl

private theorem readAll_character {s : State} (hflags : s.flags.extended = false) (c : Char) (rest : Text)
    (bound : Nat) : s.readAll (bound + 1) ((if isMeta c then ['\\', c] else [c]) ++ rest) =
      (s.addChar c).readAll bound rest := by
  cases hmeta : isMeta c with
  | true => exact readAll_next hflags (next_escaped s hmeta rest) bound
  | false => exact readAll_next hflags (next_of_not_meta s hmeta rest) bound

theorem readAll_nil (s : State) (bound : Nat) : s.readAll bound [] = .ok s := by
  cases bound <;> rfl

theorem readAll_escape_append {s : State} (hflags : s.flags.extended = false) (text rest : Text)
    (bound : Nat) : s.readAll (bound + text.length) (escape text ++ rest) =
      (text.foldl State.addChar s).readAll bound rest := by
  induction text generalizing s with
  | nil => rfl
  | cons c cs ih =>
    rw [escape_cons, List.append_assoc, List.length_cons, ← Nat.add_assoc, readAll_character hflags,
      List.foldl_cons]
    exact ih hflags

theorem length_le_length_escape (text : Text) : text.length ≤ (escape text).length := by
  induction text with
  | nil => exact Nat.le_refl 0
  | cons c cs ih =>
    rw [escape_cons, List.length_append, List.length_cons]
    split
    · rw [List.length_cons]
      omega
    · rw [List.length_singleton]
      omega

theorem foldl_addChar (text : Text) (flags : PatternFlags) (branches : List Expr)
    (items : List (Option Expr)) (groups : List OpenGroup) (count : Nat)
    (names : List (Text × Nat)) :
    text.foldl State.addChar ⟨flags, ⟨branches, items⟩, groups, count, names⟩ =
      ⟨flags, ⟨branches, (text.map fun c => some (.char (flags.char c))).reverse ++ items⟩, groups,
        count, names⟩ := by
  induction text generalizing items with
  | nil => rfl
  | cons c cs ih =>
    refine (ih _).trans ?_
    simp

theorem read_escape (ignoreCase : Bool) (h : text.length ≤ largestWeight) :
    read ignoreCase (escape text) = .ok (literal ignoreCase text) := by
  let items := text.map fun c => Expr.char ((CharClass.single c).folding ignoreCase)
  have hitems : (text.map fun c => some (Expr.char ((PatternFlags.start ignoreCase).char c))) =
      items.map some := by simp [items, PatternFlags.char_start]
  have hexpr : Level.expr ⟨[], (items.map some).reverse ++ []⟩ = Expr.literal ignoreCase text := by
    simp [Level.expr, Level.sequence, Expr.altAll, List.filterMap_map, items, Expr.literal]
  have hweight : ¬largestWeight < (Expr.literal ignoreCase text).weight := by
    rw [Expr.weight_literal]
    exact Nat.not_lt.mpr h
  obtain ⟨bound, hbound⟩ := Nat.exists_eq_add_of_le' (length_le_length_escape text)
  have hread : State.readAll ⟨.start ignoreCase, .empty, [], 0, []⟩ ((escape text).length + 1)
      (escape text) = .ok ⟨.start ignoreCase, ⟨[], (items.map some).reverse ++ []⟩, [], 0, []⟩ := by
    have hall := readAll_escape_append (s := ⟨.start ignoreCase, .empty, [], 0, []⟩) rfl text []
      (bound + 1)
    rw [List.append_nil, Nat.add_right_comm, ← hbound] at hall
    rw [hall, readAll_nil, Level.empty, foldl_addChar, hitems]
  rw [read, hread]
  show (if largestWeight < (Level.expr ⟨[], _⟩).weight then _
    else Except.ok (ofExpr (Level.expr ⟨[], _⟩) 0 [])) = _
  rw [hexpr, if_neg hweight]
  rfl

end Pattern

-- ---------------------------------------------------------------------------
-- Where a text stands
-- ---------------------------------------------------------------------------

/-- The occurrences of a piece from a position on that are met from the left, each behind the end
of the one before it. -/
inductive Leftmost (piece whole : Text) : Nat → List Span → Prop
  | none {position : Nat} (hnowhere : ∀ q, position ≤ q → ¬piece <+: whole.drop q) :
      Leftmost piece whole position []
  | next {position q : Nat} {spans : List Span} (hle : position ≤ q)
      (hstands : piece <+: whole.drop q)
      (hfirst : ∀ r, position ≤ r → r < q → ¬piece <+: whole.drop r)
      (hrest : Leftmost piece whole (q + piece.length) spans) :
      Leftmost piece whole position (⟨q, q + piece.length⟩ :: spans)

theorem Leftmost.unique {spans spans' : List Span} (h : Leftmost piece whole position spans)
    (h' : Leftmost piece whole position spans') : spans = spans' := by
  induction h generalizing spans' with
  | none hnowhere =>
    cases h' with
    | none => rfl
    | next hle hstands => exact absurd hstands (hnowhere _ hle)
  | @next position q spans hle hstands hfirst hrest ih =>
    cases h' with
    | none hnowhere => exact absurd hstands (hnowhere q hle)
    | @next _ q' others hle' hstands' hfirst' hrest' =>
      -- Neither of the two may be passed over for the other.
      obtain rfl : q = q' := by
        rcases Nat.lt_trichotomy q q' with hlt | heq | hlt
        · exact absurd hstands (hfirst' q hle hlt)
        · exact heq
        · exact absurd hstands' (hfirst q' hle' hlt)
      rw [ih hrest']

/-- The match of a pattern without groups. -/
def Span.toMatch (s : Span) : Match := ⟨s, []⟩

theorem spliceFrom_of_leftmost {spans : List Span} (hpiece : piece ≠ [])
    (h : Leftmost piece whole position spans) (value : Text) :
    spliceFrom (fun _ => value) whole position (spans.map Span.toMatch) =
      Text.replaceAll piece value (whole.drop position) := by
  induction h with
  | @none position hnowhere =>
    have hnot : ¬piece <:+: whole.drop position := by
      rintro ⟨front, back, hsplit⟩
      refine hnowhere (position + front.length) (Nat.le_add_right ..) ⟨back, ?_⟩
      simp [← List.drop_drop, ← hsplit]
    exact (Text.replaceAll_of_not_infix hnot value).symm
  | @next position q spans hle hstands hfirst hrest ih =>
    obtain ⟨back, hback⟩ := hstands
    have hbehind : whole.drop (q + piece.length) = back := by
      rw [← List.drop_drop, ← hback, List.drop_left]
    have hgap : ∀ i, i < (Span.text ⟨position, q⟩ whole).length →
        ¬piece <+: (Span.text ⟨position, q⟩ whole ++ whole.drop q).drop i := by
      intro i hi hstands
      rw [Span.text_append_drop hle, List.drop_drop] at hstands
      simp only [Span.text, List.length_take] at hi
      exact hfirst _ (Nat.le_add_right ..) (by omega) hstands
    rw [← Span.text_append_drop hle, Text.replaceAll_append_of_nowhere hpiece hgap, ← hback,
      Text.replaceAll_append_self hpiece, ← hbehind, ← ih, ← List.append_assoc]
    rfl

-- ---------------------------------------------------------------------------
-- What the pattern of a text finds
-- ---------------------------------------------------------------------------

namespace Pattern

variable {piece whole : Text}

private theorem find?_of_stands (front back : Text) :
    (literal false piece).find? (front ++ (piece ++ back)) front.length =
      some (Span.toMatch ⟨front.length, front.length + piece.length⟩) := by
  obtain ⟨before, marks, hways, -⟩ := Takes.literal piece back front front.getLast?
  rw [List.length_append] at hways
  rw [literal, find?_ofExpr (Expr.tidy_literal false piece), hways]
  rfl

private theorem ways_of_not_stands (h : ¬piece <+: rest) (before : Option Char) (position : Nat) :
    (Expr.literal false piece).ways ⟨before, position, rest⟩ = [] :=
  Expr.ways_eq_nil fun _ htaken => Expr.spells_literal.mp htaken ▸ h

private theorem find?_of_not_stands (front : Text) (h : ¬piece <+: c :: rest) :
    (literal false piece).find? (front ++ c :: rest) front.length =
      (literal false piece).find? (front ++ c :: rest) (front.length + 1) := by
  rw [literal, find?_ofExpr (Expr.tidy_literal false piece), ways_of_not_stands h]
  rfl

private theorem find?_end (hpiece : piece ≠ []) :
    (literal false piece).find? whole whole.length = none := by
  have hnot : ¬piece <+: [] := fun hstands => hpiece (List.prefix_nil.mp hstands)
  have hfind := find?_ofExpr (Expr.tidy_literal false piece) 0 [] whole []
  rw [List.append_nil, ways_of_not_stands hnot] at hfind
  exact hfind

/-- A search finds the first place where the piece stands, if there is one. -/
theorem find?_literal (hpiece : piece ≠ []) (front rest : Text) :
    match (literal false piece).find? (front ++ rest) front.length with
    | none => ∀ q, front.length ≤ q → ¬piece <+: (front ++ rest).drop q
    | some m => ∃ q, m = Span.toMatch ⟨q, q + piece.length⟩ ∧ front.length ≤ q ∧
        piece <+: (front ++ rest).drop q ∧
        ∀ r, front.length ≤ r → r < q → ¬piece <+: (front ++ rest).drop r := by
  induction rest generalizing front with
  | nil =>
    rw [List.append_nil, find?_end hpiece]
    intro q hq hstands
    rw [List.drop_of_length_le hq] at hstands
    exact hpiece (List.prefix_nil.mp hstands)
  | cons c rest ih =>
    by_cases hstands : piece <+: c :: rest
    · obtain ⟨back, hback⟩ := hstands
      rw [← hback, find?_of_stands]
      exact ⟨front.length, rfl, Nat.le_refl _, by simp, fun r hle hlt => absurd hlt (by omega)⟩
    · have hhere : ¬piece <+: (front ++ c :: rest).drop front.length := by simpa using hstands
      have hlater := ih (front ++ [c])
      rw [List.length_append, List.append_assoc, List.singleton_append, List.length_singleton]
        at hlater
      rw [find?_of_not_stands front hstands]
      cases hfind : (literal false piece).find? (front ++ c :: rest) (front.length + 1) with
      | none =>
        rw [hfind] at hlater
        intro q hq
        rcases Nat.eq_or_lt_of_le hq with rfl | hlt
        · exact hhere
        · exact hlater q hlt
      | some m =>
        rw [hfind] at hlater
        obtain ⟨q, hm, hq, hstands, hfirst⟩ := hlater
        refine ⟨q, hm, Nat.le_of_succ_le hq, hstands, ?_⟩
        intro r hr hlt
        rcases Nat.eq_or_lt_of_le hr with rfl | hr
        · exact hhere
        · exact hfirst r hr hlt

theorem exists_leftmost_matchesFrom (hpiece : piece ≠ []) (front rest : Text) {bound : Nat}
    (hbound : rest.length < bound) (lastStop : Option Nat) :
    ∃ spans, Leftmost piece (front ++ rest) front.length spans ∧
      (literal false piece).matchesFrom (front ++ rest) bound front.length lastStop =
        spans.map Span.toMatch := by
  induction bound generalizing front rest lastStop with
  | zero => omega
  | succ bound ih =>
    have hfind := find?_literal hpiece front rest
    rw [matchesFrom, next?]
    cases hfound : (literal false piece).find? (front ++ rest) front.length with
    | none =>
      rw [hfound] at hfind
      exact ⟨[], .none hfind, rfl⟩
    | some m =>
      rw [hfound] at hfind
      obtain ⟨q, rfl, hle, ⟨back, hback⟩, hfirst⟩ := hfind
      -- A piece that is not empty leaves a shorter rest behind it.
      have hempty : (Span.toMatch ⟨q, q + piece.length⟩).span.isEmpty = false := by
        simpa [Span.toMatch, Span.isEmpty] using hpiece
      have hpositive : 0 < piece.length := List.length_pos_iff.mpr hpiece
      have hlengths := congrArg List.length hback
      simp only [List.length_append, List.length_drop] at hlengths
      let passed := (front ++ rest).take q ++ piece
      have hsplit : passed ++ back = front ++ rest := by simp [passed, hback]
      have hpassed : passed.length = q + piece.length := by
        simp only [passed, List.length_append, List.length_take]
        omega
      obtain ⟨spans, hspans, hmatches⟩ := ih passed back (by omega) (some (q + piece.length))
      rw [hsplit, hpassed] at hspans hmatches
      refine ⟨_, .next hle ⟨back, hback⟩ hfirst hspans, ?_⟩
      simp only [hempty, Bool.false_and, Bool.false_eq_true, if_false]
      exact congrArg _ hmatches

theorem exists_leftmost (hpiece : piece ≠ []) (whole : Text) :
    ∃ spans, Leftmost piece whole 0 spans ∧
      (literal false piece).allMatches whole = spans.map Span.toMatch :=
  exists_leftmost_matchesFrom hpiece [] whole (Nat.lt_succ_self _) none

theorem leftmost_iff (hpiece : piece ≠ []) (whole : Text) (spans : List Span) :
    Leftmost piece whole 0 spans ↔
      (literal false piece).allMatches whole = spans.map Span.toMatch := by
  obtain ⟨found, hfound, hmatches⟩ := exists_leftmost hpiece whole
  rw [hmatches]
  constructor
  · intro h
    rw [h.unique hfound]
  · intro h
    have hinjective : Function.Injective Span.toMatch := fun a b hab => (Match.mk.inj hab).1
    rw [← List.map_injective_iff.mpr hinjective h]
    exact hfound

-- ---------------------------------------------------------------------------
-- Replacing it
-- ---------------------------------------------------------------------------

def replaceVerbatim (p : Pattern) (value whole : Text) : Text :=
  spliceFrom (fun _ => value) whole 0 (p.allMatches whole)

/-- The pattern is as good as the text itself: it finds the text where it stands, and replacing its
matches is replacing the text. -/
structure FindsText (p : Pattern) (text : Text) : Prop where
  leftmost : ∀ whole spans,
    Leftmost text whole 0 spans ↔ p.allMatches whole = spans.map Span.toMatch
  replaced : ∀ template whole, '$' ∉ template →
    p.replace 0 template whole = Text.replaceAll text template whole
  verbatim : ∀ value whole, p.replaceVerbatim value whole = Text.replaceAll text value whole

theorem findsText_literal (hpiece : piece ≠ []) : (literal false piece).FindsText piece := by
  have hverbatim (value whole : Text) :
      (literal false piece).replaceVerbatim value whole = Text.replaceAll piece value whole := by
    obtain ⟨spans, hspans, hmatches⟩ := exists_leftmost hpiece whole
    rw [replaceVerbatim, hmatches]
    exact spliceFrom_of_leftmost hpiece hspans value
  refine ⟨leftmost_iff hpiece, ?_, hverbatim⟩
  intro template whole hdollar
  have hexpand : (fun m : Match => m.expand (literal false piece).names whole template) =
      fun _ => template := by
    funext m
    simp [Match.expand, Expansion.pieces_of_not_mem hdollar, List.flatMap_map,
      Expansion.Piece.expand]
  rw [← hverbatim, replace, hexpand, selectByLimit_zero, replaceVerbatim]

end Pattern

end Relabel
