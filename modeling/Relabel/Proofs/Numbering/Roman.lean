import Relabel.Numbering.System

/-!
# Reading Roman numerals

A symbol in front of a greater one is taken away from the number, every other one is added. Where no
symbol of a text is greater than the last one in front of the text, the two are read apart
(`value_append`), and so are the symbols that the weights put into a numeral: `value_numeral`.
-/

namespace Relabel.Roman

def weightOf : Char → Nat
  | 'I' => 1
  | 'V' => 5
  | 'X' => 10
  | 'L' => 50
  | 'C' => 100
  | 'D' => 500
  | 'M' => 1000
  | _ => 0

def isSymbol (c : Char) : Bool := "IVXLCDM".toList.contains c

def value : Text → Int
  | [] => 0
  | [c] => weightOf c
  | c :: d :: rest =>
    (if weightOf c < weightOf d then -(weightOf c : Int) else weightOf c) + value (d :: rest)

/-- The last symbol of the first text is not taken away because of the second text. -/
def Follows (s t : Text) : Prop :=
  ∀ c ∈ s.getLast?, ∀ d ∈ t.head?, weightOf d ≤ weightOf c

instance (s t : Text) : Decidable (Follows s t) :=
  decidable_of_iff
    ((s.getLast?.all fun c => t.head?.all fun d => decide (weightOf d ≤ weightOf c)) = true)
    (by simp [Follows, Option.all_eq_true])

theorem value_append (h : Follows s t) : value (s ++ t) = value s + value t := by
  -- Only the last symbol of the first text has a symbol of the second one behind it.
  induction s with
  | nil => simp [value]
  | cons c s ih =>
    cases s with
    | nil =>
      cases t with
      | nil => simp [value]
      | cons d t =>
        have hle : weightOf d ≤ weightOf c := h c rfl d rfl
        simp [value, Nat.not_lt.mpr hle]
    | cons e s =>
      have hrest : Follows (e :: s) t := by simpa [Follows] using h
      simp only [List.cons_append, value] at ih ⊢
      rw [ih hrest, Int.add_assoc]

-- ---------------------------------------------------------------------------
-- Numerals made of weights
-- ---------------------------------------------------------------------------

/-- Each symbol stands for its weight and may stand behind itself and those of greater weights. -/
structure Graded (ws : List (Nat × Text)) : Prop where
  ordered : ws.Pairwise fun a b => Follows a.2 b.2
  repeatable : ∀ a ∈ ws, Follows a.2 a.2
  valued : ∀ a ∈ ws, value a.2 = a.1
  nonempty : ∀ a ∈ ws, a.2 ≠ []

theorem graded_weights : Graded weights := ⟨by decide, by decide, by decide, by decide⟩

private theorem head?_replicate_flatten {symbol : Text} (h : symbol ≠ []) (rest : Text) :
    ∀ c ∈ ((List.replicate n symbol).flatten ++ rest).head?,
      c ∈ symbol.head? ∨ c ∈ rest.head? := by
  intro c hc
  cases n with
  | zero => exact .inr (by simpa using hc)
  | succ n =>
    obtain ⟨d, symbol, rfl⟩ := List.exists_cons_of_ne_nil h
    exact .inl (by simpa [List.replicate_succ] using hc)

private theorem exists_of_head?_numeralBy (h : ∀ a ∈ ws, a.2 ≠ []) :
    ∀ c ∈ (numeralBy n ws).head?, ∃ a ∈ ws, c ∈ a.2.head? := by
  induction ws generalizing n with
  | nil => simp [numeralBy]
  | cons a ws ih =>
    intro c hc
    obtain ⟨hsymbol, hrest⟩ := List.forall_mem_cons.mp h
    rcases head?_replicate_flatten hsymbol _ c hc with hc | hc
    · exact ⟨a, List.mem_cons_self, hc⟩
    · obtain ⟨b, hb, hc⟩ := ih hrest c hc
      exact ⟨b, List.mem_cons_of_mem a hb, hc⟩

private theorem value_replicate_append {symbol rest : Text} (hself : Follows symbol symbol)
    (hrest : Follows symbol rest) (hne : symbol ≠ []) :
    value ((List.replicate n symbol).flatten ++ rest) = n * value symbol + value rest := by
  induction n with
  | zero => simp
  | succ n ih =>
    have hfollows : Follows symbol ((List.replicate n symbol).flatten ++ rest) := by
      intro c hc d hd
      rcases head?_replicate_flatten hne rest d hd with hd | hd
      · exact hself c hc d hd
      · exact hrest c hc d hd
    rw [List.replicate_succ, List.flatten_cons, List.append_assoc, value_append hfollows, ih]
    push_cast
    rw [Int.add_mul, Int.one_mul, ← Int.add_assoc, Int.add_comm (value symbol)]

/-- The weights account for all of the number but what is left behind the last of them. -/
theorem value_numeralBy (h : Graded ws) (n : Nat) :
    value (numeralBy n ws) + (ws.foldl (fun n a => n % a.1) n : Nat) = n := by
  -- Each weight takes its multiple and hands the remainder to the smaller ones.
  induction ws generalizing n with
  | nil => simp [numeralBy, value]
  | cons a ws ih =>
    obtain ⟨hfirst, hordered⟩ := List.pairwise_cons.mp h.ordered
    obtain ⟨hself, hrepeatable⟩ := List.forall_mem_cons.mp h.repeatable
    obtain ⟨hvalue, hvalued⟩ := List.forall_mem_cons.mp h.valued
    obtain ⟨hne, hnonempty⟩ := List.forall_mem_cons.mp h.nonempty
    have hrest := ih ⟨hordered, hrepeatable, hvalued, hnonempty⟩ (n % a.1)
    have hfollows : Follows a.2 (numeralBy (n % a.1) ws) := by
      intro c hc d hd
      obtain ⟨b, hb, hd⟩ := exists_of_head?_numeralBy hnonempty d hd
      exact hfirst b hb c hc d hd
    have hdiv : (n : Int) = ((n / a.1 : Nat) : Int) * a.1 + ((n % a.1 : Nat) : Int) := by
      have hnat := Nat.div_add_mod' n a.1
      exact_mod_cast hnat.symm
    rw [numeralBy, value_replicate_append hself hfollows hne, hvalue, List.foldl_cons,
      Int.add_assoc, hrest]
    exact hdiv.symm

theorem value_numeral (n : Nat) : value (numeral n) = n := by
  have h := value_numeralBy graded_weights n
  have hleft : weights.foldl (fun n a => n % a.1) n = 0 := by simp [weights, Nat.mod_one]
  rw [hleft] at h
  simpa [numeral] using h

theorem all_isSymbol_numeralBy (h : ∀ a ∈ ws, a.2.all isSymbol = true) :
    (numeralBy n ws).all isSymbol = true := by
  induction ws generalizing n with
  | nil => rfl
  | cons a ws ih =>
    obtain ⟨ha, hws⟩ := List.forall_mem_cons.mp h
    simp [numeralBy, List.all_flatten, ha, ih hws]

theorem all_isSymbol_numeral (n : Nat) : (numeral n).all isSymbol = true :=
  all_isSymbol_numeralBy (by decide)

end Relabel.Roman
