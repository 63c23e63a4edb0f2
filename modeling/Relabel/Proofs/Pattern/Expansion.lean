import Mathlib.Data.List.TakeDrop
import Relabel.Pattern.Expansion

/-!
# Reading replacements

A replacement is read from left to right, one piece after the other: `pieces_induction` follows the
reader. A text may be read by itself and the rest after it, unless a reference is left open at its
end or a dollar sign waits for what comes next.
-/

namespace Relabel.Expansion

-- ---------------------------------------------------------------------------
-- References
-- ---------------------------------------------------------------------------

theorem span_eq {p : Char → Bool} {front rest : Text} (hfront : ∀ c ∈ front, p c = true)
    (hrest : ∀ c, rest.head? = some c → p c = false) :
    (front ++ rest).span p = (front, rest) := by
  rw [List.span_eq_takeWhile_dropWhile, List.takeWhile_append_of_pos hfront,
    List.dropWhile_append_of_pos hfront]
  cases rest with
  | nil => simp
  | cons c cs => simp [hrest c rfl]

theorem exists_of_span {p : Char → Bool} {text front rest : Text}
    (h : text.span p = (front, rest)) :
    text = front ++ rest ∧ (∀ c ∈ front, p c = true) ∧ ∀ c, rest.head? = some c → p c = false := by
  rw [List.span_eq_takeWhile_dropWhile] at h
  obtain ⟨rfl, rfl⟩ := Prod.mk.inj h
  refine ⟨List.takeWhile_append_dropWhile.symm,
    fun c hc => List.all_eq_true.mp List.all_takeWhile c hc, fun c hc => ?_⟩
  have hnot := List.head?_dropWhile_not p text
  rw [hc] at hnot
  simpa using hnot

/-- A reference is a name between braces, or a name that is as long as it can be. -/
inductive Refers : Text → Text → Text → Prop
  | braced (name rest : Text) (hname : '}' ∉ name) : Refers ('{' :: (name ++ '}' :: rest)) name rest
  | bare (c : Char) (name rest : Text) (hname : ∀ d ∈ c :: name, isNameCharacter d = true)
      (hrest : ∀ d, rest.head? = some d → isNameCharacter d = false) :
      Refers (c :: (name ++ rest)) (c :: name) rest

theorem isNameCharacter_open : isNameCharacter '{' = false := by decide

theorem reference?_braced (name rest : Text) (hname : '}' ∉ name) :
    reference? ('{' :: (name ++ '}' :: rest)) = some (name, rest) := by
  have hspan : (name ++ '}' :: rest).span (· != '}') = (name, '}' :: rest) := by
    refine span_eq (fun c hc => ?_) (by simp)
    simp only [bne_iff_ne]
    rintro rfl
    exact hname hc
  rw [reference?, hspan]

theorem reference?_of_ne (hc : c ≠ '{') (rest : Text) :
    reference? (c :: rest) = match (c :: rest).span isNameCharacter with
      | ([], _) => none
      | (name, rest) => some (name, rest) := by
  unfold reference?
  split
  case h_1 heq => exact absurd (List.cons.inj heq).1 hc
  case h_2 => rfl

theorem refers_of_reference? (h : reference? text = some (name, rest)) : Refers text name rest := by
  unfold reference? at h
  split at h
  case h_1 behind =>
    split at h
    case h_1 name' c rest' hspan =>
      obtain ⟨rfl, rfl⟩ := Prod.mk.inj (Option.some.inj h)
      obtain ⟨rfl, hname, hstop⟩ := exists_of_span hspan
      obtain rfl : c = '}' := by simpa using hstop c rfl
      exact .braced _ _ fun hmem => by simpa using hname _ hmem
    case h_2 => cases h
  case h_2 =>
    split at h
    case h_1 => cases h
    case h_2 name' rest' hne hspan =>
      obtain ⟨rfl, rfl⟩ := Prod.mk.inj (Option.some.inj h)
      obtain ⟨rfl, hname, hstop⟩ := exists_of_span hspan
      cases name' with
      | nil => exact absurd rfl hne
      | cons c cs => exact .bare c cs rest' hname hstop

theorem reference?_of_refers (h : Refers text name rest) : reference? text = some (name, rest) := by
  cases h with
  | braced name rest hname => exact reference?_braced name rest hname
  | bare c name rest hname hrest =>
    have hc : c ≠ '{' := by
      rintro rfl
      have hopen := hname _ List.mem_cons_self
      rw [isNameCharacter_open] at hopen
      cases hopen
    rw [reference?_of_ne hc, ← List.cons_append, span_eq hname hrest]

theorem reference?_eq_none (hc : c ≠ '{') (rest : Text) :
    reference? (c :: rest) = none ↔ isNameCharacter c = false := by
  rw [reference?_of_ne hc, List.span_eq_takeWhile_dropWhile]
  cases hname : isNameCharacter c with
  | false => simp [hname]
  | true => simp [hname]

theorem Refers.length_lt (h : Refers text name rest) : rest.length < text.length := by
  cases h with
  | braced name rest =>
    simp only [List.length_cons, List.length_append]
    omega
  | bare c name rest =>
    simp only [List.length_cons, List.length_append]
    omega

-- ---------------------------------------------------------------------------
-- Pieces
-- ---------------------------------------------------------------------------

theorem readPieces_eq (hfirst : text.length ≤ first) (hsecond : text.length ≤ second) :
    readPieces first text = readPieces second text := by
  -- Both bounds go down with the text: every piece takes a character or more of it.
  induction first generalizing text second with
  | zero =>
    obtain rfl := List.length_eq_zero_iff.mp (Nat.le_zero.mp hfirst)
    cases second <;> rfl
  | succ first ih =>
    cases text with
    | nil => cases second <;> rfl
    | cons c rest =>
      cases second with
      | zero => simp at hsecond
      | succ second =>
        simp only [List.length_cons, Nat.add_le_add_iff_right] at hfirst hsecond
        simp only [readPieces]
        split
        case isTrue => rw [ih hfirst hsecond]
        case isFalse =>
          split
          case h_1 behind =>
            simp only [List.length_cons] at hfirst hsecond
            exact congrArg _ (ih (by omega) (by omega))
          case h_2 =>
            split
            case h_1 name behind href =>
              have hlt := (refers_of_reference? href).length_lt
              exact congrArg _ (ih (by omega) (by omega))
            case h_2 => rw [ih hfirst hsecond]

theorem pieces_char (hc : c ≠ '$') (rest : Text) : pieces (c :: rest) = .char c :: pieces rest := by
  simp [pieces, readPieces, hc]

theorem pieces_of_not_mem {text : Text} (h : '$' ∉ text) : pieces text = text.map .char := by
  induction text with
  | nil => rfl
  | cons c cs ih =>
    simp only [List.mem_cons, not_or] at h
    rw [pieces_char (Ne.symm h.1), ih h.2, List.map_cons]

theorem pieces_dollars (rest : Text) :
    pieces ('$' :: '$' :: rest) = .char '$' :: pieces rest := by
  simp only [pieces, readPieces, List.length_cons, ne_eq, not_true_eq_false, ↓reduceIte]
  rw [readPieces_eq (by omega) (Nat.le_refl _)]

private theorem pieces_reference (h : reference? rest = some (name, behind)) :
    pieces ('$' :: rest) = .reference name :: pieces behind := by
  have hlt := (refers_of_reference? h).length_lt
  simp only [pieces, readPieces, List.length_cons, ne_eq, not_true_eq_false, ↓reduceIte]
  split
  case h_1 others =>
    rw [(reference?_eq_none (by decide) others).mpr (by decide)] at h
    cases h
  case h_2 =>
    rw [h]
    exact congrArg _ (readPieces_eq (by omega) (Nat.le_refl _))

private theorem pieces_lone (hhead : ∀ others, rest ≠ '$' :: others) (h : reference? rest = none) :
    pieces ('$' :: rest) = .char '$' :: pieces rest := by
  simp only [pieces, readPieces, List.length_cons, ne_eq, not_true_eq_false, ↓reduceIte]
  rw [h]

theorem pieces_induction {motive : Text → Prop} (nil : motive [])
    (char : ∀ c rest, c ≠ '$' → motive rest → motive (c :: rest))
    (dollars : ∀ rest, motive rest → motive ('$' :: '$' :: rest))
    (reference : ∀ text name rest, Refers text name rest → motive rest → motive ('$' :: text))
    (lone : ∀ rest, (∀ others, rest ≠ '$' :: others) → reference? rest = none → motive rest →
      motive ('$' :: rest))
    (text : Text) : motive text := by
  -- A reference takes several characters at once, so the induction is on the length.
  induction hlength : text.length using Nat.strongRecOn generalizing text with
  | _ length ih =>
    cases text with
    | nil => exact nil
    | cons c rest =>
      rw [List.length_cons] at hlength
      by_cases hc : c = '$'
      · subst hc
        cases href : reference? rest with
        | some found =>
          have hrefers := refers_of_reference? href
          have hlt := hrefers.length_lt
          exact reference rest _ _ hrefers (ih _ (by omega) _ rfl)
        | none =>
          by_cases hhead : ∃ others, rest = '$' :: others
          · obtain ⟨others, rfl⟩ := hhead
            rw [List.length_cons] at hlength
            exact dollars others (ih _ (by omega) _ rfl)
          · exact lone rest (fun others heq => hhead ⟨others, heq⟩) href (ih _ (by omega) _ rfl)
      · exact char c rest hc (ih _ (by omega) _ rfl)

-- ---------------------------------------------------------------------------
-- Texts that are complete
-- ---------------------------------------------------------------------------

def trailingDollars (text : Text) : Nat := (text.reverse.takeWhile (· == '$')).length

def BracesRefer (text : Text) : Prop := .char '{' ∉ pieces text ∧ .char '}' ∉ pieces text

instance (text : Text) : Decidable (BracesRefer text) := by
  unfold BracesRefer
  infer_instance

private theorem trailingDollars_append_cons (hc : c ≠ '$') (front rest : Text) :
    trailingDollars (front ++ c :: rest) = trailingDollars rest := by
  simp only [trailingDollars, List.reverse_append, List.reverse_cons, List.append_assoc,
    List.takeWhile_append]
  split
  case isTrue h => simp [hc, h]
  case isFalse => rfl

private theorem trailingDollars_dollars (rest : Text) :
    trailingDollars ('$' :: '$' :: rest) % 2 = trailingDollars rest % 2 := by
  simp only [trailingDollars, List.reverse_cons, List.append_assoc, List.takeWhile_append]
  split
  case isTrue h => simp [h]
  case isFalse => rfl

theorem isNameCharacter_dollar : isNameCharacter '$' = false := by decide

theorem Refers.trailingDollars_eq (h : Refers text name rest) :
    trailingDollars ('$' :: text) = trailingDollars rest := by
  cases h with
  | braced name rest => exact trailingDollars_append_cons (by decide) ('$' :: '{' :: name) rest
  | bare c name rest hname =>
    -- A name holds no dollar sign, so the trailing ones all stand behind it.
    obtain ⟨front, last, hlast⟩ : ∃ front last, c :: name = front ++ [last] :=
      ⟨_, _, (List.dropLast_concat_getLast (List.cons_ne_nil c name)).symm⟩
    have hdollar : last ≠ '$' := by
      rintro rfl
      have hmem := hname '$' (by simp [hlast])
      rw [isNameCharacter_dollar] at hmem
      cases hmem
    rw [← List.cons_append, hlast, List.append_assoc]
    exact trailingDollars_append_cons hdollar ('$' :: front) rest

theorem Refers.append_open (h : Refers text name rest) (others : Text) :
    Refers (text ++ '{' :: others) name (rest ++ '{' :: others) := by
  cases h with
  | braced name rest hname =>
    rw [List.cons_append, List.append_assoc, List.cons_append]
    exact .braced _ _ hname
  | bare c name rest hname hrest =>
    rw [List.cons_append, List.append_assoc]
    refine .bare _ _ _ hname fun d hd => ?_
    cases rest with
    | nil =>
      obtain rfl : '{' = d := by simpa using hd
      exact isNameCharacter_open
    | cons e es => exact hrest d hd

/-- What the reading of a replacement waits for: for nothing, for what stands behind a dollar sign,
or for the brace that ends a name. -/
inductive Waiting
  | nothing
  | behindDollar
  | closingBrace
deriving DecidableEq, Repr

def Waiting.next : Waiting → Char → Waiting
  | nothing, c => if c = '$' then behindDollar else nothing
  -- The characters of a name without braces are read like any others.
  | behindDollar, c => if c = '{' then closingBrace else nothing
  | closingBrace, c => if c = '}' then nothing else closingBrace

/-- What the reading waits for at the end of a text. -/
def waiting (text : Text) : Waiting := text.foldl Waiting.next .nothing

private theorem foldl_next_of_not_mem_dollar {text : Text} (h : '$' ∉ text) :
    text.foldl Waiting.next .nothing = .nothing := by
  induction text with
  | nil => rfl
  | cons c cs ih =>
    rw [List.mem_cons, not_or] at h
    rw [List.foldl_cons, Waiting.next, if_neg (Ne.symm h.1), ih h.2]

private theorem foldl_next_of_not_mem_close {text : Text} (h : '}' ∉ text) :
    text.foldl Waiting.next .closingBrace = .closingBrace := by
  induction text with
  | nil => rfl
  | cons c cs ih =>
    rw [List.mem_cons, not_or] at h
    rw [List.foldl_cons, Waiting.next, if_neg (Ne.symm h.1), ih h.2]

theorem waiting_cons (hc : c ≠ '$') (rest : Text) : waiting (c :: rest) = waiting rest := by
  rw [waiting, List.foldl_cons, Waiting.next, if_neg hc]
  rfl

theorem Refers.waiting_eq (h : Refers text name rest) : waiting ('$' :: text) = waiting rest := by
  cases h with
  | braced name rest hname =>
    show (name ++ '}' :: rest).foldl Waiting.next .closingBrace = _
    rw [List.foldl_append, foldl_next_of_not_mem_close hname]
    rfl
  | bare c name rest hname =>
    have hopen : c ≠ '{' := by
      rintro rfl
      have hmem := hname '{' List.mem_cons_self
      rw [isNameCharacter_open] at hmem
      cases hmem
    have hdollar : '$' ∉ name := fun hmem => by
      have hmem := hname '$' (List.mem_cons_of_mem _ hmem)
      rw [isNameCharacter_dollar] at hmem
      cases hmem
    have hfirst : Waiting.next .behindDollar c = .nothing := if_neg hopen
    show (name ++ rest).foldl Waiting.next (Waiting.next .behindDollar c) = _
    rw [hfirst, List.foldl_append, foldl_next_of_not_mem_dollar hdollar]
    rfl

/-- Behind a dollar sign that is itself, and for which nothing is waited, stands another character
that begins no reference. -/
theorem exists_behind_lone (hhead : ∀ others, rest ≠ '$' :: others) (href : reference? rest = none)
    (h : waiting ('$' :: rest) = .nothing) : ∃ c others, rest = c :: others ∧ c ≠ '$' ∧ c ≠ '{' ∧
      isNameCharacter c = false ∧ waiting rest = .nothing := by
  cases rest with
  | nil => cases h
  | cons c others =>
    have hdollar : c ≠ '$' := fun heq => hhead others (by rw [heq])
    have hopen : c ≠ '{' := by
      rintro rfl
      -- A brace would either be closed, which makes a reference, or leave the text waiting for its
      -- end.
      by_cases hclose : '}' ∈ others
      · obtain ⟨name, behind, rfl, hname⟩ := List.eq_append_cons_of_mem hclose
        rw [reference?_braced name behind hname] at href
        cases href
      · have hwaits : waiting ('$' :: '{' :: others) = .closingBrace :=
          foldl_next_of_not_mem_close hclose
        rw [hwaits] at h
        cases h
    have hnext : waiting ('$' :: c :: others) = waiting (c :: others) := by
      rw [waiting_cons hdollar]
      show others.foldl Waiting.next (if c = '{' then .closingBrace else .nothing) = _
      rw [if_neg hopen]
      rfl
    exact ⟨c, others, rfl, hdollar, hopen, (reference?_eq_none hopen others).mp href, hnext ▸ h⟩

/-- A text at whose end nothing is waited for does not look at a brace behind it. -/
theorem pieces_append_open (h : waiting front = .nothing) (rest : Text) :
    pieces (front ++ '{' :: rest) = pieces front ++ pieces ('{' :: rest) := by
  induction front using pieces_induction with
  | nil => rfl
  | char c front hc ih =>
    rw [waiting_cons hc] at h
    rw [List.cons_append, pieces_char hc, pieces_char hc, ih h]
    rfl
  | dollars front ih =>
    rw [List.cons_append, List.cons_append, pieces_dollars, pieces_dollars, ih h]
    rfl
  | reference text name behind href ih =>
    rw [href.waiting_eq] at h
    rw [List.cons_append, pieces_reference (reference?_of_refers (href.append_open rest)),
      pieces_reference (reference?_of_refers href), ih h]
    rfl
  | lone front hhead href ih =>
    obtain ⟨c, others, rfl, hdollar, hopen, hname, hrest⟩ := exists_behind_lone hhead href h
    -- Neither an open reference nor a name, so what follows makes no difference.
    have hlone (behind : Text) :
        pieces ('$' :: c :: behind) = .char '$' :: pieces (c :: behind) :=
      pieces_lone (fun others heq => hdollar (List.cons.inj heq).1)
        ((reference?_eq_none hopen _).mpr hname)
    have hih := ih hrest
    rw [List.cons_append] at hih
    rw [List.cons_append, List.cons_append, hlone, hlone, hih]
    rfl

theorem waiting_of_bracesRefer (hbraces : BracesRefer text)
    (hpaired : trailingDollars text % 2 = 0) : waiting text = .nothing := by
  induction text using pieces_induction with
  | nil => rfl
  | char c rest hc ih =>
    rw [BracesRefer, pieces_char hc, List.mem_cons, List.mem_cons, not_or, not_or] at hbraces
    rw [← List.nil_append (c :: rest), trailingDollars_append_cons hc] at hpaired
    rw [waiting_cons hc, ih ⟨hbraces.1.2, hbraces.2.2⟩ hpaired]
  | dollars rest ih =>
    rw [BracesRefer, pieces_dollars, List.mem_cons, List.mem_cons, not_or, not_or] at hbraces
    rw [trailingDollars_dollars] at hpaired
    exact ih ⟨hbraces.1.2, hbraces.2.2⟩ hpaired
  | reference text name rest href ih =>
    rw [BracesRefer, pieces_reference (reference?_of_refers href), List.mem_cons, List.mem_cons,
      not_or, not_or] at hbraces
    rw [href.trailingDollars_eq] at hpaired
    rw [href.waiting_eq, ih ⟨hbraces.1.2, hbraces.2.2⟩ hpaired]
  | lone rest hhead href ih =>
    rw [BracesRefer, pieces_lone hhead href, List.mem_cons, List.mem_cons, not_or, not_or]
      at hbraces
    cases rest with
    | nil =>
      -- The dollar sign at the end is the one that must not be alone.
      cases hpaired
    | cons c rest =>
      have hdollar : c ≠ '$' := fun heq => hhead rest (by rw [heq])
      have hopen : c ≠ '{' := by
        rintro rfl
        refine hbraces.1.2 ?_
        rw [pieces_char (by decide)]
        exact List.mem_cons_self
      have hpaired' : trailingDollars (c :: rest) % 2 = 0 := by
        rw [← List.nil_append (c :: rest), trailingDollars_append_cons hdollar]
        rwa [← List.singleton_append, trailingDollars_append_cons hdollar] at hpaired
      have hrest := ih ⟨hbraces.1.2, hbraces.2.2⟩ hpaired'
      rw [waiting_cons hdollar] at hrest
      show rest.foldl Waiting.next (if c = '{' then .closingBrace else .nothing) = _
      rw [if_neg hopen]
      exact hrest

end Relabel.Expansion
