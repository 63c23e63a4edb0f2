import Relabel.Pattern.Expansion

/-!
# Replacing matches

A limit says which matches are replaced: all for zero, so many from the left for a positive one,
so many from the right for a negative one. The text outside of them stays as it is.
-/

namespace Relabel

def selectByLimit (limit : Int) (items : List α) : List α :=
  if limit = 0 then items
  else if 0 < limit then items.take limit.toNat
  else items.drop (items.length - limit.natAbs)

/-- The text from a position on, with the matches, which come in order, replaced. -/
def spliceFrom (replaced : Match → Text) (whole : Text) (position : Nat) : List Match → Text
  | [] => whole.drop position
  | m :: rest =>
    Span.text ⟨position, m.span.start⟩ whole ++ replaced m ++
      spliceFrom replaced whole m.span.stop rest

def Pattern.replace (p : Pattern) (limit : Int) (replacement whole : Text) : Text :=
  spliceFrom (fun m => m.expand p.names whole replacement) whole 0
    (selectByLimit limit (p.allMatches whole))

theorem selectByLimit_zero (items : List α) : selectByLimit 0 items = items := rfl

end Relabel
