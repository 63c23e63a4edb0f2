import Relabel.Text.Basic

/-!
# Orders of texts

Texts compare character by character. In natural order a run of ASCII digits counts as one number:
`file2` comes before `file10`. Of two runs with one value the shorter comes first.
-/

namespace Relabel

def Text.order : Text → Text → Ordering
  | [], [] => .eq
  | [], _ :: _ => .lt
  | _ :: _, [] => .gt
  | a :: as, b :: bs => (compare a b).then (Text.order as bs)

inductive Chunk
  | number (digits : Text)
  | char (c : Char)
deriving DecidableEq, Repr

namespace Chunk

def significant (digits : Text) : Text := digits.dropWhile (· == '0')

def head : Chunk → Char
  | number digits => digits.headD '0'
  | char c => c

/-- Without the zeros in front the longer run is the greater number. -/
def order : Chunk → Chunk → Ordering
  | number a, number b =>
    ((compare (significant a).length (significant b).length).then
      (Text.order (significant a) (significant b))).then (compare a.length b.length)
  | a, b => compare a.head b.head

def text : Chunk → Text
  | number digits => digits
  | char c => [c]

end Chunk

namespace Text

/-- The text as maximal runs of digits and single other characters. -/
def chunks : Text → List Chunk
  | [] => []
  | c :: cs =>
    if c.isDigit then
      match chunks cs with
      | .number digits :: rest => .number (c :: digits) :: rest
      | rest => .number [c] :: rest
    else .char c :: chunks cs

def orderChunks : List Chunk → List Chunk → Ordering
  | [], [] => .eq
  | [], _ :: _ => .lt
  | _ :: _, [] => .gt
  | a :: as, b :: bs => (a.order b).then (orderChunks as bs)

def naturalOrder (a b : Text) : Ordering := orderChunks a.chunks b.chunks

theorem chunks_flatten (text : Text) : text.chunks.flatMap Chunk.text = text := by
  induction text with
  | nil => rfl
  | cons c cs ih =>
    simp only [chunks]
    split
    · split
      case h_1 digits rest h => rw [h] at ih; simpa [Chunk.text] using ih
      case h_2 => simpa [Chunk.text] using ih
    · simpa [Chunk.text] using ih

end Text

end Relabel
