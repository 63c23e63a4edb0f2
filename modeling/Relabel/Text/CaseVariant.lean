import Relabel.Text.CaseTables

/-!
# Case variants

Two characters are case variants when simple case folding takes them to one character. A class of
variants has at most four members, and the orbit table leads round it.
-/

namespace Relabel

def nextCaseVariant (c : Char) : Char := (shifted? caseOrbitShifts c).getD c

def caseVariants (c : Char) : List Char :=
  let second := nextCaseVariant c
  let third := nextCaseVariant second
  [c, second, third, nextCaseVariant third]

theorem mem_caseVariants_self (c : Char) : c ∈ caseVariants c := by simp [caseVariants]

end Relabel
