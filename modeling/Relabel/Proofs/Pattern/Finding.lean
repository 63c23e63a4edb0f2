import Relabel.Pattern.Basic
import Relabel.Proofs.Pattern.Emission

/-!
# Finding matches

A search takes the preferred way of the first place from which the expression has one.
-/

namespace Relabel

theorem Expr.search_program {e : Expr} (h : e.Tidy) (before : Option Char) (position : Nat)
    (text : Text) : e.program.search before position text =
      match (e.ways ⟨before, position, text⟩).head? with
      | some way => some (⟨position, way.1.position⟩, way.2)
      | none =>
        match text with
        | [] => none
        | c :: rest => e.program.search (some c) (position + 1) rest := by
  have hrun := Program.run_start (e.ends_program h ⟨before, position, text⟩)
  rw [endingsOf, List.head?_map] at hrun
  cases hways : (e.ways ⟨before, position, text⟩).head? with
  | some way =>
    rw [hways] at hrun
    cases text <;> simp only [Program.search, hrun, Option.map_some]
  | none =>
    rw [hways] at hrun
    cases text <;> simp only [Program.search, hrun, Option.map_none]

namespace Pattern

def matchOf (p : Pattern) (found : Span × Marks) : Match :=
  ⟨found.1, (List.range p.groupCount).map fun n => groupSpan? found.2 (n + 1)⟩

theorem find?_append (p : Pattern) (front rest : Text) :
    p.find? (front ++ rest) front.length =
      (p.program.search front.getLast? front.length rest).map p.matchOf := by
  have hbefore : (if front.length = 0 then none else (front ++ rest)[front.length - 1]?) =
      front.getLast? := by
    rcases List.eq_nil_or_concat front with rfl | ⟨front, c, rfl⟩
    · rfl
    · simp
  rw [find?, if_neg (by simp), List.drop_left]
  simp only [hbefore]
  rfl

/-- A search from a place gives the preferred way from there, or it goes on behind the next
character. -/
theorem find?_ofExpr {e : Expr} (h : e.Tidy) (groupCount : Nat) (names : List (Text × Nat))
    (front rest : Text) : (ofExpr e groupCount names).find? (front ++ rest) front.length =
      match (e.ways ⟨front.getLast?, front.length, rest⟩).head? with
      | some way => some ((ofExpr e groupCount names).matchOf
          (⟨front.length, way.1.position⟩, way.2))
      | none =>
        match rest with
        | [] => none
        | _ :: _ => (ofExpr e groupCount names).find? (front ++ rest) (front.length + 1) := by
  have hsearch := Expr.search_program h front.getLast? front.length rest
  have hfind : (ofExpr e groupCount names).find? (front ++ rest) front.length =
      (e.program.search front.getLast? front.length rest).map (ofExpr e groupCount names).matchOf :=
    find?_append _ front rest
  rw [hfind, hsearch]
  cases (e.ways ⟨front.getLast?, front.length, rest⟩).head? with
  | some way => rfl
  | none =>
    cases rest with
    | nil => rfl
    | cons c rest =>
      have hbehind := find?_append (ofExpr e groupCount names) (front ++ [c]) rest
      rw [List.length_append, List.append_assoc, List.getLast?_concat] at hbehind
      exact hbehind.symm

end Pattern

end Relabel
