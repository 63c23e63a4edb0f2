import Relabel.Text.Basic

/-!
# Chains of replacements

A chain applies its links one after the other, each to the names that the link before it has made.
-/

namespace Relabel

structure Link where
  find : Text
  replacement : Text
deriving DecidableEq, Repr

abbrev Chain := List Link

/-- Pairs find and replacement arguments, `last` being the find argument before them. A link
without a find argument of its own uses the last one; one without a replacement deletes. -/
def Chain.pair (last : Text) : List Text → List Text → Chain
  | [], [] => []
  | [], replacement :: replacements => ⟨last, replacement⟩ :: pair last [] replacements
  | find :: finds, [] => ⟨find, []⟩ :: pair find finds []
  | find :: finds, replacement :: replacements =>
    ⟨find, replacement⟩ :: pair find finds replacements

def Chain.ofPairs (finds replacements : List Text) : Chain := Chain.pair [] finds replacements

theorem Chain.length_pair (last : Text) (finds replacements : List Text) :
    (Chain.pair last finds replacements).length = max finds.length replacements.length := by
  induction finds generalizing last replacements with
  | nil =>
    induction replacements with
    | nil => simp [pair]
    | cons replacement replacements ih => simpa [pair] using ih
  | cons find finds ih =>
    cases replacements with
    | nil => simp [pair, ih]
    | cons replacement replacements => simp [pair, ih]

end Relabel
