import Relabel.Text.Basic
import Relabel.Text.CodeRanges

/-!
# White space

The property White_Space, and the removal of it at both ends of a text.
-/

namespace Relabel

def blankRanges : List (Nat × Nat) := [
    (0x9, 0xd), (0x20, 0x20), (0x85, 0x85), (0xa0, 0xa0), (0x1680, 0x1680), (0x2000, 0x200a),
    (0x2028, 0x2029), (0x202f, 0x202f), (0x205f, 0x205f), (0x3000, 0x3000)]

def isBlank (c : Char) : Bool := inRanges blankRanges c

theorem isBlank_of_isWhitespace {c : Char} (h : c.isWhitespace) : isBlank c := by
  simp only [Char.isWhitespace, Bool.or_eq_true, decide_eq_true_eq] at h
  rcases h with ((rfl | rfl) | rfl) | rfl <;> decide

namespace Text

def trimStart (text : Text) : Text := text.dropWhile isBlank

def trimEnd (text : Text) : Text := (text.reverse.dropWhile isBlank).reverse

def trim (text : Text) : Text := text.trimStart.trimEnd

end Text

end Relabel
