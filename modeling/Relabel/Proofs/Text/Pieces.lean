import Mathlib.Data.List.DropRight
import Relabel.Text.Blank

/-!
# Pieces of a text

`pieces` undoes `joinWith` on pieces without the separator, and what is put in front of a text or
behind it goes to its first or its last piece. White space is no separator of a path, so trimming
changes nothing but those two.
-/

namespace Relabel.Text

variable {separator : Char}

theorem pieces_cons_of_ne {c : Char} (hc : c ≠ separator) (hp : pieces separator text = p :: ps) :
    pieces separator (c :: text) = (c :: p) :: ps := by
  simp [pieces, hc, hp]

theorem pieces_of_not_mem (h : separator ∉ text) : pieces separator text = [text] := by
  induction text with
  | nil => rfl
  | cons c cs ih =>
    have hc := Ne.symm (List.ne_of_not_mem_cons h)
    exact pieces_cons_of_ne hc (ih (List.not_mem_of_not_mem_cons h))

theorem pieces_append (front rest : Text) :
    pieces separator (front ++ separator :: rest) =
      pieces separator front ++ pieces separator rest := by
  induction front with
  | nil => simp [pieces]
  | cons c cs ih =>
    by_cases hc : c = separator
    · simp [pieces, hc, ih]
    · obtain ⟨p, ps, hp⟩ := List.exists_cons_of_ne_nil (pieces_ne_nil separator cs)
      rw [hp] at ih
      rw [pieces_cons_of_ne hc hp]
      exact pieces_cons_of_ne hc ih

theorem pieces_append_separator (h : separator ∉ front) (rest : Text) :
    pieces separator (front ++ separator :: rest) = front :: pieces separator rest := by
  rw [pieces_append, pieces_of_not_mem h]
  rfl

theorem not_mem_of_mem_pieces (h : piece ∈ pieces separator text) : separator ∉ piece := by
  induction text generalizing piece with
  | nil =>
    obtain rfl : piece = [] := by simpa [pieces] using h
    exact List.not_mem_nil
  | cons c cs ih =>
    by_cases hc : c = separator
    · rw [pieces, if_pos hc] at h
      rcases List.mem_cons.mp h with rfl | h
      · exact List.not_mem_nil
      · exact ih h
    · obtain ⟨p, ps, hp⟩ := List.exists_cons_of_ne_nil (pieces_ne_nil separator cs)
      rw [pieces_cons_of_ne hc hp] at h
      rcases List.mem_cons.mp h with rfl | h
      · have hp' : separator ∉ p := ih (by simp [hp])
        simp [Ne.symm hc, hp']
      · exact ih (by simp [hp, h])

theorem exists_pieces_eq_concat (separator : Char) (text : Text) :
    ∃ names last, pieces separator text = names ++ [last] :=
  ⟨_, _, (List.dropLast_append_getLast (pieces_ne_nil separator text)).symm⟩

theorem joinWith_cons (hne : names ≠ []) :
    joinWith separator (name :: names) = name ++ separator :: joinWith separator names := by
  obtain ⟨next, others, rfl⟩ := List.exists_cons_of_ne_nil hne
  rfl

theorem pieces_joinWith (hne : names ≠ []) (h : ∀ name ∈ names, separator ∉ name) :
    pieces separator (joinWith separator names) = names := by
  induction names with
  | nil => exact absurd rfl hne
  | cons name names ih =>
    obtain ⟨hname, hnames⟩ := List.forall_mem_cons.mp h
    cases names with
    | nil => exact pieces_of_not_mem hname
    | cons next others =>
      rw [joinWith, pieces_append_separator hname, ih (by simp) hnames]
      simp

theorem not_mem_joinWith {c : Char} {names : List Text} (hc : c ≠ separator)
    (h : ∀ piece ∈ names, c ∉ piece) : c ∉ joinWith separator names := by
  induction names with
  | nil => exact List.not_mem_nil
  | cons piece rest ih =>
    obtain ⟨hpiece, hrest⟩ := List.forall_mem_cons.mp h
    cases rest with
    | nil => exact hpiece
    | cons next others =>
      have hothers := ih hrest
      simp [joinWith, hpiece, hc, hothers]

theorem pieces_prepend (h : separator ∉ front) (hp : pieces separator text = p :: ps) :
    pieces separator (front ++ text) = (front ++ p) :: ps := by
  induction front with
  | nil => exact hp
  | cons c cs ih =>
    have hc := Ne.symm (List.ne_of_not_mem_cons h)
    exact pieces_cons_of_ne hc (ih (List.not_mem_of_not_mem_cons h))

theorem pieces_extend (h : separator ∉ back) {ps : List Text} {p : Text}
    (hp : pieces separator text = ps ++ [p]) :
    pieces separator (text ++ back) = ps ++ [p ++ back] := by
  -- The first character is a separator or goes to the first piece, which may be the last one too.
  induction text generalizing ps p with
  | nil =>
    obtain ⟨rfl, rfl⟩ : ps = [] ∧ p = [] := by
      cases ps <;> simp_all [pieces]
    exact pieces_of_not_mem h
  | cons c cs ih =>
    by_cases hc : c = separator
    · subst hc
      simp only [pieces, ↓reduceIte, List.cons_append] at hp ⊢
      cases ps with
      | nil =>
        obtain ⟨-, hnil⟩ := List.cons.inj hp
        exact absurd hnil (pieces_ne_nil c cs)
      | cons q qs =>
        obtain ⟨rfl, hqs⟩ := List.cons.inj hp
        rw [ih hqs, List.cons_append]
    · obtain ⟨q, qs, hq⟩ := List.exists_cons_of_ne_nil (pieces_ne_nil separator cs)
      rw [pieces_cons_of_ne hc hq] at hp
      cases ps with
      | nil =>
        obtain ⟨rfl, rfl⟩ := List.cons.inj hp
        exact pieces_cons_of_ne hc (@ih [] q hq)
      | cons r rs =>
        obtain ⟨rfl, rfl⟩ := List.cons.inj hp
        exact pieces_cons_of_ne hc (@ih (q :: rs) p hq)

-- ---------------------------------------------------------------------------
-- White space at the ends
-- ---------------------------------------------------------------------------

/-- A text is what trimming leaves of it, with white space on both sides. -/
theorem exists_blanks_around (text : Text) :
    ∃ front back, (∀ c ∈ front, isBlank c) ∧ (∀ c ∈ back, isBlank c) ∧
      text = front ++ trim text ++ back := by
  have hstart : text.takeWhile isBlank ++ text.trimStart = text := List.takeWhile_append_dropWhile
  have hend : text.trim ++ (text.trimStart.reverse.takeWhile isBlank).reverse = text.trimStart := by
    rw [trim, trimEnd, ← List.reverse_append, List.takeWhile_append_dropWhile, List.reverse_reverse]
  refine ⟨text.takeWhile isBlank, (text.trimStart.reverse.takeWhile isBlank).reverse,
    fun c hc => List.all_eq_true.mp List.all_takeWhile c hc,
    fun c hc => List.all_eq_true.mp List.all_takeWhile c (List.mem_reverse.mp hc), ?_⟩
  rw [List.append_assoc, hend, hstart]

theorem trimEnd_trimEnd (text : Text) : text.trimEnd.trimEnd = text.trimEnd := by
  simp [trimEnd, List.dropWhile_idempotent]

theorem trimStart_trim (text : Text) : text.trim.trimStart = text.trim := by
  obtain ⟨back, hback⟩ : ∃ back, text.trimStart = text.trim ++ back :=
    ⟨(text.trimStart.reverse.takeWhile isBlank).reverse, by
      rw [trim, trimEnd, ← List.reverse_append, List.takeWhile_append_dropWhile,
        List.reverse_reverse]⟩
  cases ht : text.trim with
  | nil => rfl
  | cons c cs =>
    have hc : isBlank c = false := by
      have h := List.head?_dropWhile_not isBlank text
      rw [show text.dropWhile isBlank = c :: (cs ++ back) by rw [← List.cons_append, ← ht]; exact hback] at h
      simpa using h
    simp [trimStart, hc]

@[simp] theorem trim_trim (text : Text) : text.trim.trim = text.trim := by
  rw [trim, trimStart_trim, trim, trimEnd_trimEnd]

end Relabel.Text
