import Mathlib.Data.List.Basic
import Relabel.Pattern.Match

/-!
# The ways to match

An expression may match from a place on in several ways. `Expr.ways` lists them, the preferred one
first, as a search does that tries one after the other and comes back when it fails: the first
alternative before the second, one more copy before leaving off or the other way round.
-/

namespace Relabel

/-- A place in a text from which the rest can be read. -/
structure Cursor where
  before : Option Char
  position : Nat
  rest : Text
deriving DecidableEq, Repr

namespace Cursor

def place (here : Cursor) : Place := ⟨here.before, here.rest.head?, here.position⟩

def meets (here : Cursor) (assertion : Assertion) : Bool :=
  assertion.holds here.before here.rest.head?

def advance (here : Cursor) (c : Char) (rest : Text) : Cursor := ⟨some c, here.position + 1, rest⟩

end Cursor

/-- A way to get from one place to another: where it ends, and the marks set on it, latest first. -/
abbrev Way := Cursor × Marks

def goOn (ways : List Way) (next : Cursor → List Way) : List Way :=
  ways.flatMap fun way => (next way.1).map fun more => (more.1, more.2 ++ way.2)

@[simp] theorem goOn_nil (next : Cursor → List Way) : goOn [] next = [] := rfl

theorem goOn_start (here : Cursor) (next : Cursor → List Way) :
    goOn [(here, [])] next = next here := by
  simp [goOn]

theorem goOn_congr {ways : List Way} {next next' : Cursor → List Way}
    (h : ∀ way ∈ ways, next way.1 = next' way.1) : goOn ways next = goOn ways next' :=
  List.flatMap_congr fun way hway => by rw [h way hway]

theorem goOn_done (ways : List Way) : goOn ways (fun here => [(here, [])]) = ways := by
  simp [goOn]

theorem goOn_assoc (ways : List Way) (next later : Cursor → List Way) :
    goOn (goOn ways next) later = goOn ways fun here => goOn (next here) later := by
  simp only [goOn, List.flatMap_assoc, List.flatMap_map, List.map_flatMap, List.map_map]
  simp only [Function.comp_def, List.append_assoc]

theorem mem_goOn {ways : List Way} {next : Cursor → List Way} {way : Way} :
    way ∈ goOn ways next ↔
      ∃ first ∈ ways, ∃ more ∈ next first.1, way = (more.1, more.2 ++ first.2) := by
  simp only [goOn, List.mem_flatMap, List.mem_map]
  exact exists_congr fun first => and_congr_right fun _ =>
    exists_congr fun more => and_congr_right fun _ => eq_comm

/-- One more copy, or to leave off. -/
def inOrderOf (greedy : Bool) (more leave : List Way) : List Way :=
  if greedy then more ++ leave else leave ++ more

def copiesWays (body : Cursor → List Way) : Nat → Cursor → List Way
  | 0, here => [(here, [])]
  | n + 1, here => goOn (body here) (copiesWays body n)

theorem copiesWays_succ (body : Cursor → List Way) (n : Nat) (here : Cursor) :
    copiesWays body (n + 1) here = goOn (copiesWays body n here) body := by
  induction n generalizing here with
  | zero => rw [copiesWays, copiesWays, goOn_start]; exact goOn_done _
  | succ n ih =>
    rw [copiesWays, copiesWays, goOn_assoc]
    exact goOn_congr fun way _ => ih way.1

def optionalWays (body : Cursor → List Way) (greedy : Bool) : Nat → Cursor → List Way
  | 0, here => [(here, [])]
  | n + 1, here => inOrderOf greedy (goOn (body here) (optionalWays body greedy n)) [(here, [])]

/-- As many copies as there may be; every copy takes a character. -/
def starWays (body : Cursor → List Way) (greedy : Bool) (here : Cursor) : List Way :=
  optionalWays body greedy here.rest.length here

/-- The ways in which the expression matches from a place on, the preferred one first. -/
def Expr.ways : Expr → Cursor → List Way
  | empty, here => [(here, [])]
  | char accepted, here =>
    match here.rest with
    | [] => []
    | c :: rest => if accepted.accepts c then [(here.advance c rest, [])] else []
  | look assertion, here =>
    if here.meets assertion then [(here, [])] else []
  | group number body, here =>
    (body.ways here).map fun way =>
      (way.1, (2 * number + 1, way.1.position) :: way.2 ++ [(2 * number, here.position)])
  | seq first second, here => goOn (first.ways here) second.ways
  | alt first second, here => first.ways here ++ second.ways here
  | repeated body least (some most) greedy, here =>
    goOn (copiesWays body.ways least here) (optionalWays body.ways greedy (most - least))
  | repeated body least none greedy, here =>
    goOn (copiesWays body.ways least here) (starWays body.ways greedy)

/-- No expression that is repeated without bound may match nothing. -/
def Expr.Tidy : Expr → Prop
  | empty | char _ | look _ => True
  | group _ body => body.Tidy
  | seq first second => first.Tidy ∧ second.Tidy
  | alt first second => first.Tidy ∧ second.Tidy
  | repeated body _ (some _) _ => body.Tidy
  | repeated body _ none _ => body.Tidy ∧ body.nullable = false

instance Expr.decideTidy : (e : Expr) → Decidable e.Tidy
  | empty | char _ | look _ => isTrue trivial
  | group _ body => body.decideTidy
  | seq first second => @instDecidableAnd _ _ first.decideTidy second.decideTidy
  | alt first second => @instDecidableAnd _ _ first.decideTidy second.decideTidy
  | repeated body _ (some _) _ => body.decideTidy
  | repeated body _ none _ => @instDecidableAnd _ _ body.decideTidy inferInstance

-- ---------------------------------------------------------------------------
-- Ways take characters
-- ---------------------------------------------------------------------------

def Forward (ways : Cursor → List Way) : Prop :=
  ∀ here, ∀ way ∈ ways here, way.1.rest.length ≤ here.rest.length

def Consuming (ways : Cursor → List Way) : Prop :=
  ∀ here, ∀ way ∈ ways here, way.1.rest.length < here.rest.length

theorem Consuming.forward {ways : Cursor → List Way} (h : Consuming ways) : Forward ways :=
  fun here way hway => Nat.le_of_lt (h here way hway)

private theorem forward_start : Forward fun here => [(here, [])] := by
  intro here way hway
  obtain rfl := List.mem_singleton.mp hway
  exact Nat.le_refl _

section

variable {first second body : Cursor → List Way}

theorem Forward.goOn (hfirst : Forward first) (hsecond : Forward second) :
    Forward fun here => goOn (first here) second := by
  intro here way hway
  obtain ⟨way', hway', more, hmore, rfl⟩ := mem_goOn.mp hway
  exact Nat.le_trans (hsecond way'.1 more hmore) (hfirst here way' hway')

theorem Consuming.goOn (hfirst : Consuming first) (hsecond : Forward second) :
    Consuming fun here => goOn (first here) second := by
  intro here way hway
  obtain ⟨way', hway', more, hmore, rfl⟩ := mem_goOn.mp hway
  exact Nat.lt_of_le_of_lt (hsecond way'.1 more hmore) (hfirst here way' hway')

theorem Forward.goOn_consuming (hfirst : Forward first) (hsecond : Consuming second) :
    Consuming fun here => Relabel.goOn (first here) second := by
  intro here way hway
  obtain ⟨way', hway', more, hmore, rfl⟩ := mem_goOn.mp hway
  exact Nat.lt_of_lt_of_le (hsecond way'.1 more hmore) (hfirst here way' hway')

private theorem forward_copiesWays (hbody : Forward body) (n : Nat) : Forward (copiesWays body n) := by
  induction n with
  | zero => exact forward_start
  | succ n ih => exact hbody.goOn ih

theorem mem_inOrderOf {more leave : List Way} {way : Way} :
    way ∈ inOrderOf greedy more leave ↔ way ∈ more ∨ way ∈ leave := by
  unfold inOrderOf
  split
  · exact List.mem_append
  · rw [List.mem_append, or_comm]

private theorem forward_optionalWays (hbody : Forward body) (greedy : Bool) (n : Nat) :
    Forward (optionalWays body greedy n) := by
  induction n with
  | zero => exact forward_start
  | succ n ih =>
    intro here way hway
    rcases mem_inOrderOf.mp hway with hway | hway
    · exact hbody.goOn ih here way hway
    · exact forward_start here way hway

private theorem forward_starWays (hbody : Forward body) (greedy : Bool) :
    Forward (starWays body greedy) :=
  fun here way hway => forward_optionalWays hbody greedy _ here way hway

theorem Consuming.eq_nil (hbody : Consuming body) {here : Cursor} (h : here.rest.length = 0) :
    body here = [] := by
  refine List.eq_nil_iff_forall_not_mem.mpr fun way hway => ?_
  have hlt := hbody here way hway
  omega

theorem inOrderOf_nil (greedy : Bool) (leave : List Way) : inOrderOf greedy [] leave = leave := by
  cases greedy
  · exact List.append_nil leave
  · rfl

theorem optionalWays_eq (hbody : Consuming body) (greedy : Bool) {here : Cursor} {n m : Nat}
    (hn : here.rest.length ≤ n) (hm : here.rest.length ≤ m) :
    optionalWays body greedy n here = optionalWays body greedy m here := by
  -- Behind every copy fewer characters are left, and one copy less may still come.
  induction n generalizing here m with
  | zero =>
    cases m with
    | zero => rfl
    | succ m =>
      rw [optionalWays, optionalWays, hbody.eq_nil (Nat.le_zero.mp hn), goOn_nil, inOrderOf_nil]
  | succ n ih =>
    cases m with
    | zero =>
      rw [optionalWays, optionalWays, hbody.eq_nil (Nat.le_zero.mp hm), goOn_nil, inOrderOf_nil]
    | succ m =>
      have hmore : goOn (body here) (optionalWays body greedy n) =
          goOn (body here) (optionalWays body greedy m) := by
        refine goOn_congr fun way hway => ih ?_ ?_ <;>
        · have hlt := hbody here way hway
          omega
      rw [optionalWays, optionalWays, hmore]

/-- Either one more copy, and then as many as there may be, or none. -/
theorem starWays_eq (hbody : Consuming body) (greedy : Bool) (here : Cursor) :
    starWays body greedy here =
      inOrderOf greedy (goOn (body here) (starWays body greedy)) [(here, [])] := by
  have hmore : goOn (body here) (optionalWays body greedy here.rest.length) =
      goOn (body here) (starWays body greedy) :=
    goOn_congr fun way hway =>
      optionalWays_eq hbody greedy (Nat.le_of_lt (hbody here way hway)) (Nat.le_refl _)
  rw [starWays, optionalWays_eq hbody greedy (Nat.le_refl _) (Nat.le_succ _), optionalWays, hmore]

end

namespace Expr

theorem ways_char_cons (accepted : CharClass) (before : Option Char) (position : Nat) (c : Char)
    (rest : Text) : (char accepted).ways ⟨before, position, c :: rest⟩ =
      if accepted.accepts c then [(⟨some c, position + 1, rest⟩, [])] else [] := rfl

theorem mem_ways_char {accepted : CharClass} {here : Cursor} {way : Way}
    (h : way ∈ (char accepted).ways here) : ∃ c rest, here.rest = c :: rest ∧
      accepted.accepts c = true ∧ way = (here.advance c rest, []) := by
  obtain ⟨before, position, rest⟩ := here
  cases rest with
  | nil => cases h
  | cons c rest =>
    rw [ways_char_cons] at h
    split at h
    case isTrue haccepts => exact ⟨c, rest, rfl, haccepts, List.mem_singleton.mp h⟩
    case isFalse => cases h

private theorem consuming_char (accepted : CharClass) : Consuming (char accepted).ways := by
  intro here way hway
  obtain ⟨c, rest, hrest, -, rfl⟩ := mem_ways_char hway
  rw [hrest]
  exact Nat.lt_succ_self _

theorem mem_ways_look {assertion : Assertion} {here : Cursor} {way : Way}
    (h : way ∈ (look assertion).ways here) : way = (here, []) := by
  rw [ways] at h
  split at h
  · exact List.mem_singleton.mp h
  · cases h

theorem mem_ways_group {number : Nat} {body : Expr} {here : Cursor} {way : Way} :
    way ∈ (group number body).ways here ↔ ∃ inner ∈ body.ways here,
      way = (inner.1, (2 * number + 1, inner.1.position) :: inner.2 ++
        [(2 * number, here.position)]) := by
  simp only [ways, List.mem_map, eq_comm]

theorem forward_ways (e : Expr) : Forward e.ways := by
  induction e with
  | empty => exact forward_start
  | char accepted => exact (consuming_char accepted).forward
  | look assertion =>
    intro here way hway
    obtain rfl := mem_ways_look hway
    exact Nat.le_refl _
  | group number body ih =>
    intro here way hway
    obtain ⟨inner, hinner, rfl⟩ := mem_ways_group.mp hway
    exact ih here inner hinner
  | seq first second ih ih' => exact ih.goOn ih'
  | alt first second ih ih' =>
    intro here way hway
    rcases List.mem_append.mp hway with hway | hway
    · exact ih here way hway
    · exact ih' here way hway
  | repeated body least most greedy ih =>
    have hcopies := forward_copiesWays ih least
    cases most with
    | none => exact hcopies.goOn (forward_starWays ih greedy)
    | some most => exact hcopies.goOn (forward_optionalWays ih greedy (most - least))

private theorem consuming_copiesWays {body : Cursor → List Way} (hbody : Consuming body) (hn : n ≠ 0) :
    Consuming (copiesWays body n) := by
  cases n with
  | zero => exact absurd rfl hn
  | succ n => exact hbody.goOn (forward_copiesWays hbody.forward n)

theorem consuming_ways (e : Expr) (h : e.nullable = false) : Consuming e.ways := by
  induction e with
  | empty => cases h
  | char accepted => exact consuming_char accepted
  | look assertion => cases h
  | group number body ih =>
    intro here way hway
    obtain ⟨inner, hinner, rfl⟩ := mem_ways_group.mp hway
    exact ih h here inner hinner
  | seq first second ih ih' =>
    rw [nullable, Bool.and_eq_false_iff] at h
    rcases h with h | h
    · exact (ih h).goOn second.forward_ways
    · exact first.forward_ways.goOn_consuming (ih' h)
  | alt first second ih ih' =>
    rw [nullable, Bool.or_eq_false_iff] at h
    intro here way hway
    rcases List.mem_append.mp hway with hway | hway
    · exact ih h.1 here way hway
    · exact ih' h.2 here way hway
  | repeated body least most greedy ih =>
    rw [nullable, Bool.or_eq_false_iff] at h
    have hcopies := consuming_copiesWays (ih h.2) (by simpa using h.1)
    have hbody := body.forward_ways
    cases most with
    | none => exact hcopies.goOn (forward_starWays hbody greedy)
    | some most => exact hcopies.goOn (forward_optionalWays hbody greedy (most - least))

end Expr

end Relabel
