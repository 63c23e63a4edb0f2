/-!
# Texts

Names, templates and paths are lists of characters, so that every rule of the library is a
recursion on them.
-/

namespace Relabel

abbrev Text := List Char

namespace Text

def after? (front : Text) (text : Text) : Option Text :=
  match front, text with
  | [], rest => some rest
  | c :: cs, d :: ds => if c = d then after? cs ds else none
  | _ :: _, [] => none

/-- The pieces between the occurrences of a character: one more than there are occurrences. -/
def pieces (separator : Char) : Text → List Text
  | [] => [[]]
  | c :: cs =>
    if c = separator then [] :: pieces separator cs
    else match pieces separator cs with
      | [] => [[c]]
      | piece :: pieces => (c :: piece) :: pieces

def joinWith (separator : Char) : List Text → Text
  | [] => []
  | [piece] => piece
  | piece :: pieces => piece ++ separator :: joinWith separator pieces

def hasSubtext (piece : Text) : Text → Bool
  | [] => piece.isEmpty
  | c :: cs => piece.isPrefixOf (c :: cs) || hasSubtext piece cs

theorem after?_append (front rest : Text) : after? front (front ++ rest) = some rest := by
  induction front with
  | nil => simp [after?]
  | cons c cs ih => simpa [after?] using ih

theorem eq_append_of_after? {front text rest : Text} (h : after? front text = some rest) :
    text = front ++ rest := by
  induction front generalizing text with
  | nil => simpa [after?] using h
  | cons c cs ih =>
    cases text with
    | nil => simp [after?] at h
    | cons d ds =>
      simp only [after?] at h
      split at h
      case isTrue hc => simp [hc, ih h]
      case isFalse => simp at h

theorem pieces_ne_nil (separator : Char) (text : Text) : pieces separator text ≠ [] := by
  cases text with
  | nil => simp [pieces]
  | cons c cs =>
    simp only [pieces]
    split
    · simp
    · split <;> simp

theorem joinWith_pieces (separator : Char) (text : Text) :
    joinWith separator (pieces separator text) = text := by
  induction text with
  | nil => rfl
  | cons c cs ih =>
    rw [pieces]
    cases h : pieces separator cs with
    | nil => exact absurd h (pieces_ne_nil separator cs)
    | cons piece pieces =>
      rw [h] at ih
      split
      case isTrue hc => subst hc; rw [joinWith, ih] <;> simp
      case isFalse =>
        cases pieces with
        | nil => simpa [joinWith] using ih
        | cons next others => simpa [joinWith] using ih

end Text

end Relabel
