import Relabel.Text.Occurrence

/-!
# One occurrence after the other

Replacing goes along a text: where the piece stands it puts the value, and anywhere else it keeps
the character.
-/

namespace Relabel.Text

variable {piece : Text}

theorem replaceFrom_length_append (piece value front rest : Text) :
    replaceFrom piece value front.length (front ++ rest) = replaceFrom piece value 0 rest := by
  induction front with
  | nil => rfl
  | cons c cs ih => rw [List.length_cons, List.cons_append, replaceFrom, ih]

theorem replaceAll_nil (hpiece : piece ≠ []) (value : Text) : replaceAll piece value [] = [] := by
  simp [replaceAll, hpiece, replaceFrom]

theorem replaceAll_append_self (hpiece : piece ≠ []) (value rest : Text) :
    replaceAll piece value (piece ++ rest) = value ++ replaceAll piece value rest := by
  cases piece with
  | nil => exact absurd rfl hpiece
  | cons c cs =>
    have hprefix : (c :: cs).isPrefixOf (c :: (cs ++ rest)) = true :=
      List.isPrefixOf_iff_prefix.mpr (List.prefix_append (c :: cs) rest)
    simp [replaceAll, replaceFrom, hprefix, replaceFrom_length_append]

theorem replaceAll_cons (hpiece : piece ≠ []) (h : ¬piece <+: c :: rest) (value : Text) :
    replaceAll piece value (c :: rest) = c :: replaceAll piece value rest := by
  have hprefix : piece.isPrefixOf (c :: rest) = false :=
    Bool.eq_false_iff.mpr fun heq => h (List.isPrefixOf_iff_prefix.mp heq)
  simp [replaceAll, hpiece, replaceFrom, hprefix]

theorem replaceAll_append_of_nowhere {gap rest : Text} (hpiece : piece ≠ [])
    (h : ∀ i, i < gap.length → ¬piece <+: (gap ++ rest).drop i) (value : Text) :
    replaceAll piece value (gap ++ rest) = gap ++ replaceAll piece value rest := by
  induction gap with
  | nil => rfl
  | cons c cs ih =>
    have hfirst : ¬piece <+: c :: (cs ++ rest) := h 0 (Nat.zero_lt_succ _)
    have hrest := ih fun i hi => h (i + 1) (Nat.succ_lt_succ hi)
    rw [List.cons_append, replaceAll_cons hpiece hfirst, hrest, List.cons_append]

theorem hasSubtext_iff {text : Text} : hasSubtext piece text = true ↔ piece <:+: text := by
  induction text with
  | nil => simp [hasSubtext]
  | cons c cs ih => simp [hasSubtext, ih, List.infix_cons_iff]

theorem replaceAll_of_not_infix (h : ¬piece <:+: text) (value : Text) :
    replaceAll piece value text = text := by
  have hpiece : piece ≠ [] := fun hnil => h (hnil ▸ List.nil_infix)
  induction text with
  | nil => exact replaceAll_nil hpiece value
  | cons c cs ih =>
    rw [replaceAll_cons hpiece (fun hprefix => h hprefix.isInfix)]
    rw [ih fun hinfix => h (List.infix_cons hinfix)]

end Relabel.Text
