import Relabel.Naming.Value
import Relabel.Pattern.Search
import Relabel.Proofs.Pattern.Finding
import Relabel.Proofs.Pattern.Replacing
import Relabel.Proofs.Pattern.Taking

/-!
# The whole name

An empty find argument is the pattern `^.*$` in which the dot stands for line ends too. It can only
begin where nothing stands before, and from there it takes all that there is; so it matches every
name once, an empty one too, and nothing is left for a second match behind the first.
-/

namespace Relabel

theorem Takes.textEnd : Takes (Expr.look .textEnd).ways [] [] [] := by
  intro front before
  exact ⟨before, [], by simp [Expr.ways, Cursor.meets, Assertion.holds], tells_nil _⟩

theorem tidy_wholeText : Expr.wholeText.Tidy := by decide

private theorem ways_wholeText_behind (c : Char) (position : Nat) (rest : Text) :
    Expr.wholeText.ways ⟨some c, position, rest⟩ = [] := rfl

namespace Pattern

theorem read_wholeText (ignoreCase : Bool) :
    read ignoreCase "(?s)^.*$".toList = .ok wholeText := by
  cases ignoreCase <;> rfl

theorem find?_wholeText (name : Text) :
    wholeText.find? name 0 = some ⟨⟨0, name.length⟩, []⟩ := by
  have hall : name.all CharClass.any.accepts = true := by simp [CharClass.accepts_any]
  have hstar : Takes (Expr.repeated (.char .any) 0 none true).ways name [] [] :=
    .starChar hall nofun
  -- The longest way comes first, and the end of the text is met there.
  obtain ⟨last, marks, hways, -⟩ := (hstar.seq Takes.textEnd) [] none
  have hstart : Expr.wholeText.ways ⟨none, 0, name⟩ =
      ((Expr.repeated (.char .any) 0 none true).seq (.look .textEnd)).ways ⟨none, 0, name⟩ :=
    goOn_start _ _
  have hfind := find?_ofExpr tidy_wholeText 0 [] [] name
  simp only [List.append_nil, List.length_nil, List.nil_append] at hways
  simp only [List.nil_append, List.length_nil, List.getLast?_nil, hstart, hways] at hfind
  exact hfind

private theorem find?_wholeText_end (front : Text) (c : Char) :
    wholeText.find? (front ++ [c]) (front ++ [c]).length = none := by
  have hfind := find?_ofExpr tidy_wholeText 0 [] (front ++ [c]) []
  simp only [List.append_nil, List.getLast?_concat, ways_wholeText_behind] at hfind
  exact hfind

theorem allMatches_wholeText (name : Text) :
    wholeText.allMatches name = [⟨⟨0, name.length⟩, []⟩] := by
  have hfirst := find?_wholeText name
  rcases List.eq_nil_or_concat name with rfl | ⟨front, c, rfl⟩
  · -- There is one place only, and the match has been reported there.
    simp [allMatches, matchesFrom, next?, hfirst, Span.isEmpty]
  · rw [List.concat_eq_append] at hfirst ⊢
    -- Behind the last character there is an empty match, which is dropped: it starts where the
    -- first has ended.
    have hbehind := find?_wholeText_end front c
    have hlonger : (Span.mk 0 (front ++ [c]).length).isEmpty = false := by simp [Span.isEmpty]
    have hnext : wholeText.next? (front ++ [c]) 0 none =
        some ⟨⟨0, (front ++ [c]).length⟩, []⟩ := by
      simp only [next?, hfirst, hlonger, Bool.false_and, Bool.false_eq_true, if_false]
    have hlast (stop : Option Nat) :
        wholeText.next? (front ++ [c]) (front ++ [c]).length stop = none := by
      simp only [next?, hbehind]
    rw [allMatches, matchesFrom, hnext]
    simp only [hlonger, Bool.false_eq_true, if_false]
    rw [List.length_append, List.length_singleton, matchesFrom, ← List.length_singleton (a := c),
      ← List.length_append, hlast]

theorem replace_wholeText (limit : Int) (replacement name : Text) :
    wholeText.replace limit replacement name =
      Match.expand ⟨⟨0, name.length⟩, []⟩ [] name replacement := by
  have hall : (wholeText.allMatches name).length ≤ limit.natAbs ∨ limit = 0 := by
    rw [allMatches_wholeText, List.length_singleton]
    omega
  have hselected : selectByLimit limit (wholeText.allMatches name) = wholeText.allMatches name := by
    rcases hall with hall | rfl
    · exact selectByLimit_of_length_le hall
    · rfl
  rw [replace, hselected, allMatches_wholeText]
  simp [spliceFrom, Span.text, wholeText, ofExpr]

theorem captured_wholeText (name : Text) : wholeText.captured name 0 = name := by
  simp [captured, find?_wholeText, Match.groupText, Match.group?, Span.text]

end Pattern

/-- An empty find argument, in every mode, stands for the pattern `^.*$` in which the dot stands for
line ends too. It matches every name once and as a whole. So under every limit the replacement is
expanded once, with the whole name for group 0, and the whole name is what variables without a group
or with group 0 show and what an index with group 0 counts by. -/
theorem whole_name_once (mode : FindMode) : ∃ p, Pattern.compile mode [] = .ok p ∧
    Pattern.read mode.ignoreCase "(?s)^.*$".toList = .ok p ∧
    (∀ name, p.allMatches name = [⟨⟨0, name.length⟩, []⟩] ∧
      Match.groupText ⟨⟨0, name.length⟩, []⟩ name 0 = name ∧
      ∀ limit replacement, p.replace limit replacement name =
        Match.expand ⟨⟨0, name.length⟩, []⟩ p.names name replacement) ∧
    ∀ (s : Subject) (setting : Setting) (facts : Facts),
      (∀ format, (Variable.capture (some 0) format).value setting p s facts =
        (Variable.capture none format).value setting p s facts) ∧
      (∀ t, (Variable.capture none (.text t)).value setting p s facts = t.apply s.matched) ∧
      (∀ field, (Variable.capture none (.date field)).value setting p s facts =
        ((Moment.readNamed? setting.zone s.matched).map field.render).getD []) ∧
      ∀ index : Index, ({ index with group := some 0 }).scope p s = some s.matched := by
  refine ⟨.wholeText, rfl, Pattern.read_wholeText mode.ignoreCase, ?_, ?_⟩
  · intro name
    refine ⟨Pattern.allMatches_wholeText name, ?_, ?_⟩
    · simp [Match.groupText, Match.group?, Span.text]
    · intro limit replacement
      exact Pattern.replace_wholeText limit replacement name
  · intro s setting facts
    refine ⟨?_, ?_, ?_, ?_⟩
    · intro format
      cases format <;> simp [Variable.value]
    · intro t
      simp [Variable.value, Pattern.captured_wholeText]
    · intro field
      simp [Variable.value, Pattern.captured_wholeText]
    · intro index
      simp [Index.scope, Pattern.captured_wholeText]

end Relabel
