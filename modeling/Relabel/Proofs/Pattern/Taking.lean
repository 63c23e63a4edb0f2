import Relabel.Pattern.Basic
import Relabel.Proofs.Pattern.Ways
import Relabel.Proofs.Text.Runs

/-!
# What an expression takes

Two views of the ways of an expression. `Expr.Spells` says of a text that the expression matches
it from end to end, and forgets in which order it tries. `Takes` says what the preferred way takes
from a text and what its groups capture; it is built up along the expression as long as the first
thing tried is right.
-/

namespace Relabel

-- ---------------------------------------------------------------------------
-- The texts of an expression
-- ---------------------------------------------------------------------------

/-- The expression matches the text from end to end; assertions are taken to hold. -/
def Expr.Spells : Expr → Text → Prop
  | empty, text => text = []
  | char accepted, text => ∃ c, accepted.accepts c = true ∧ text = [c]
  | look _, text => text = []
  | group _ body, text => body.Spells text
  | seq first second, text =>
    ∃ front back, first.Spells front ∧ second.Spells back ∧ text = front ++ back
  | alt first second, text => first.Spells text ∨ second.Spells text
  | repeated body least most _, text => ∃ copies : List Text, least ≤ copies.length ∧
    (∀ m ∈ most, copies.length ≤ max least m) ∧ (∀ copy ∈ copies, body.Spells copy) ∧
    text = copies.flatten

def Along (ways : Cursor → List Way) (language : Text → Prop) : Prop :=
  ∀ here, ∀ way ∈ ways here, ∃ taken, language taken ∧ here.rest = taken ++ way.1.rest

section

variable {ways ways' : Cursor → List Way} {language language' : Text → Prop}

private theorem along_start : Along (fun here => [(here, [])]) fun text => text = [] := fun here way hway => by
  obtain rfl := List.mem_singleton.mp hway
  exact ⟨[], rfl, rfl⟩

theorem Along.goOn (h : Along ways language) (h' : Along ways' language') :
    Along (fun here => Relabel.goOn (ways here) ways') fun text =>
      ∃ front back, language front ∧ language' back ∧ text = front ++ back := by
  intro here way hway
  obtain ⟨first, hfirst, more, hmore, rfl⟩ := mem_goOn.mp hway
  obtain ⟨front, hfront, hrest⟩ := h here first hfirst
  obtain ⟨back, hback, hrest'⟩ := h' first.1 more hmore
  exact ⟨front ++ back, ⟨front, back, hfront, hback, rfl⟩, by rw [hrest, hrest', List.append_assoc]⟩

theorem Along.mono (h : Along ways language) (hle : ∀ text, language text → language' text) :
    Along ways language' := fun here way hway => by
  obtain ⟨taken, htaken, hrest⟩ := h here way hway
  exact ⟨taken, hle taken htaken, hrest⟩

private theorem along_copiesWays (h : Along ways language) (n : Nat) :
    Along (copiesWays ways n) fun text => ∃ copies : List Text, copies.length = n ∧
      (∀ copy ∈ copies, language copy) ∧ text = copies.flatten := by
  induction n with
  | zero =>
    refine along_start.mono ?_
    rintro _ rfl
    exact ⟨[], rfl, List.forall_mem_nil _, rfl⟩
  | succ n ih =>
    refine (h.goOn ih).mono ?_
    rintro _ ⟨copy, -, hcopy, ⟨copies, hlength, hcopies, rfl⟩, rfl⟩
    exact ⟨copy :: copies, by simp [hlength], List.forall_mem_cons.mpr ⟨hcopy, hcopies⟩, rfl⟩

private theorem along_optionalWays (h : Along ways language) (greedy : Bool) (n : Nat) :
    Along (optionalWays ways greedy n) fun text => ∃ copies : List Text, copies.length ≤ n ∧
      (∀ copy ∈ copies, language copy) ∧ text = copies.flatten := by
  induction n with
  | zero =>
    refine along_start.mono ?_
    rintro _ rfl
    exact ⟨[], Nat.le_refl _, List.forall_mem_nil _, rfl⟩
  | succ n ih =>
    intro here way hway
    rcases mem_inOrderOf.mp hway with hway | hway
    · obtain ⟨-, ⟨copy, -, hcopy, ⟨copies, hlength, hcopies, rfl⟩, rfl⟩, hrest⟩ :=
        h.goOn ih here way hway
      exact ⟨_, ⟨copy :: copies, by simpa using hlength,
        List.forall_mem_cons.mpr ⟨hcopy, hcopies⟩, rfl⟩, hrest⟩
    · obtain rfl := List.mem_singleton.mp hway
      exact ⟨[], ⟨[], Nat.zero_le _, List.forall_mem_nil _, rfl⟩, rfl⟩

end

namespace Expr

theorem along_ways (e : Expr) : Along e.ways e.Spells := by
  induction e with
  | empty => exact along_start
  | char accepted =>
    intro here way hway
    obtain ⟨c, rest, hrest, haccepts, rfl⟩ := mem_ways_char hway
    exact ⟨[c], ⟨c, haccepts, rfl⟩, hrest⟩
  | look assertion =>
    intro here way hway
    obtain rfl := mem_ways_look hway
    exact ⟨[], rfl, rfl⟩
  | group number body ih =>
    intro here way hway
    obtain ⟨inner, hinner, rfl⟩ := mem_ways_group.mp hway
    exact ih here inner hinner
  | seq first second ih ih' => exact ih.goOn ih'
  | alt first second ih ih' =>
    intro here way hway
    rcases List.mem_append.mp hway with hway | hway
    · obtain ⟨taken, htaken, hrest⟩ := ih here way hway
      exact ⟨taken, .inl htaken, hrest⟩
    · obtain ⟨taken, htaken, hrest⟩ := ih' here way hway
      exact ⟨taken, .inr htaken, hrest⟩
  | repeated body least most greedy ih =>
    cases most with
    | none =>
      -- How many copies follow the required ones is bounded by the text only.
      intro here way hway
      obtain ⟨way', hway', more, hmore, rfl⟩ := mem_goOn.mp hway
      obtain ⟨-, ⟨first, hfirst, hall, rfl⟩, hrest⟩ := along_copiesWays ih least here way' hway'
      obtain ⟨-, ⟨others, -, hothers, rfl⟩, hrest'⟩ :=
        along_optionalWays ih greedy _ way'.1 more hmore
      refine ⟨_, ⟨first ++ others, by simp [hfirst], nofun,
        List.forall_mem_append.mpr ⟨hall, hothers⟩, List.flatten_append.symm⟩, ?_⟩
      rw [hrest, hrest', List.append_assoc]
    | some most =>
      refine ((along_copiesWays ih least).goOn (along_optionalWays ih greedy (most - least))).mono ?_
      rintro _ ⟨-, -, ⟨first, hfirst, hall, rfl⟩, ⟨others, hcount, hothers, rfl⟩, rfl⟩
      refine ⟨first ++ others, by simp [hfirst], fun m hm => ?_,
        List.forall_mem_append.mpr ⟨hall, hothers⟩, List.flatten_append.symm⟩
      obtain rfl := Option.some.inj hm
      rw [List.length_append, hfirst]
      omega

theorem ways_eq_nil {e : Expr} {here : Cursor} (h : ∀ taken, e.Spells taken → ¬taken <+: here.rest) :
    e.ways here = [] := by
  refine List.eq_nil_iff_forall_not_mem.mpr fun way hway => ?_
  obtain ⟨taken, htaken, hrest⟩ := e.along_ways here way hway
  exact h taken htaken ⟨way.1.rest, hrest.symm⟩

/-- The class of the first character, where the expression begins with a character. -/
def lead? : Expr → Option CharClass
  | char accepted => some accepted
  | group _ body => body.lead?
  | seq first _ => first.lead?
  | repeated body (_ + 1) _ _ => body.lead?
  | _ => none

theorem ways_eq_nil_of_lead {e : Expr} {accepted : CharClass} (h : e.lead? = some accepted)
    {here : Cursor} (hhead : ∀ c ∈ here.rest.head?, accepted.accepts c = false) :
    e.ways here = [] := by
  induction e with
  | char a =>
    obtain rfl := Option.some.inj h
    obtain ⟨before, position, rest⟩ := here
    cases rest with
    | nil => rfl
    | cons c rest => rw [ways_char_cons, hhead c rfl]; rfl
  | group number body ih => rw [ways, ih h]; rfl
  -- What comes first decides; nothing behind it is tried.
  | seq first second ih _ => rw [ways, ih h]; rfl
  | repeated body least most greedy ih =>
    cases least with
    | zero => cases h
    | succ least => cases most <;> rw [ways, copiesWays, ih h] <;> rfl
  | _ => cases h

-- ---------------------------------------------------------------------------
-- Sequences and choices
-- ---------------------------------------------------------------------------

theorem ways_seqAll_cons (e : Expr) (es : List Expr) (here : Cursor) :
    (seqAll (e :: es)).ways here = goOn (e.ways here) (seqAll es).ways := by
  cases es with
  | nil => exact (goOn_done _).symm
  | cons next others => rfl

theorem ways_seqAll_append (es es' : List Expr) (here : Cursor) :
    (seqAll (es ++ es')).ways here = goOn ((seqAll es).ways here) (seqAll es').ways := by
  induction es generalizing here with
  | nil => exact (goOn_start here _).symm
  | cons e es ih =>
    rw [List.cons_append, ways_seqAll_cons, ways_seqAll_cons, goOn_assoc]
    exact goOn_congr fun way _ => ih way.1

theorem spells_group {number : Nat} {e : Expr} {text : Text} :
    (group number e).Spells text ↔ e.Spells text := Iff.rfl

theorem spells_seqAll_nil {text : Text} : (seqAll []).Spells text ↔ text = [] := Iff.rfl

theorem spells_seqAll_one {e : Expr} {text : Text} : (seqAll [e]).Spells text ↔ e.Spells text :=
  Iff.rfl

theorem spells_seqAll_cons {e : Expr} {es : List Expr} {text : Text} :
    (seqAll (e :: es)).Spells text ↔
      ∃ front back, e.Spells front ∧ (seqAll es).Spells back ∧ text = front ++ back := by
  cases es with
  | nil =>
    constructor
    · exact fun h => ⟨text, [], h, rfl, (List.append_nil text).symm⟩
    · rintro ⟨front, back, h, rfl, rfl⟩
      rwa [List.append_nil]
  | cons next others => rfl

theorem spells_seqAll_append {es es' : List Expr} {text : Text} :
    (seqAll (es ++ es')).Spells text ↔
      ∃ front back, (seqAll es).Spells front ∧ (seqAll es').Spells back ∧ text = front ++ back := by
  induction es generalizing text with
  | nil =>
    constructor
    · exact fun h => ⟨[], text, rfl, h, rfl⟩
    · rintro ⟨front, back, rfl, h, rfl⟩
      exact h
  | cons e es ih =>
    simp only [List.cons_append, spells_seqAll_cons, ih]
    constructor
    · rintro ⟨first, -, he, ⟨front, back, hfront, hback, rfl⟩, rfl⟩
      exact ⟨first ++ front, back, ⟨first, front, he, hfront, rfl⟩, hback,
        (List.append_assoc ..).symm⟩
    · rintro ⟨-, back, ⟨first, front, he, hfront, rfl⟩, hback, rfl⟩
      exact ⟨first, front ++ back, he, ⟨front, back, hfront, hback, rfl⟩, List.append_assoc ..⟩

theorem spells_altAll {es : List Expr} (hne : es ≠ []) {text : Text} :
    (altAll es).Spells text ↔ ∃ e ∈ es, e.Spells text := by
  induction es with
  | nil => exact absurd rfl hne
  | cons e es ih =>
    cases es with
    | nil => simp [altAll]
    | cons next others =>
      have hothers := ih (List.cons_ne_nil next others)
      simp only [List.mem_cons, exists_eq_or_imp] at hothers ⊢
      exact or_congr_right hothers

theorem spells_literal {word text : Text} : (literal false word).Spells text ↔ text = word := by
  induction word generalizing text with
  | nil => rfl
  | cons c cs ih =>
    rw [literal, List.map_cons, spells_seqAll_cons]
    constructor
    · rintro ⟨-, back, ⟨d, hd, rfl⟩, hback, rfl⟩
      rw [ih.mp hback, (CharClass.accepts_single c d).mp hd]
      rfl
    · rintro rfl
      exact ⟨[c], cs, ⟨c, (CharClass.accepts_single c c).mpr rfl, rfl⟩, ih.mpr rfl, rfl⟩

end Expr

-- ---------------------------------------------------------------------------
-- The preferred way
-- ---------------------------------------------------------------------------

/-- The marks around groups tell what the groups captured. -/
structure Tells (whole : Text) (marks : Marks) (captured : List (Nat × Text)) : Prop where
  paired : ∀ n, (marks.lookup (2 * n)).isSome = (marks.lookup (2 * n + 1)).isSome
  texts : ∀ n, (Pattern.groupSpan? marks n).map (·.text whole) = captured.lookup n

theorem tells_nil (whole : Text) : Tells whole [] [] := ⟨fun _ => rfl, fun _ => rfl⟩

theorem groupSpan?_eq_none {marks : Marks} {n : Nat}
    (hpaired : (marks.lookup (2 * n)).isSome = (marks.lookup (2 * n + 1)).isSome) :
    Pattern.groupSpan? marks n = none ↔
      marks.lookup (2 * n) = none ∧ marks.lookup (2 * n + 1) = none := by
  unfold Pattern.groupSpan?
  cases hstart : marks.lookup (2 * n) <;> cases hstop : marks.lookup (2 * n + 1) <;>
    simp_all

theorem Tells.append {whole : Text} {later earlier : Marks} {captured captured' : List (Nat × Text)}
    (h : Tells whole earlier captured) (h' : Tells whole later captured') :
    Tells whole (later ++ earlier) (captured' ++ captured) := by
  refine ⟨fun n => ?_, fun n => ?_⟩
  · simp only [List.lookup_append, Option.isSome_or, h.paired n, h'.paired n]
  · rw [List.lookup_append, ← h.texts n, ← h'.texts n]
    unfold Pattern.groupSpan?
    rw [List.lookup_append, List.lookup_append]
    have hlater := h'.paired n
    cases hstart : later.lookup (2 * n) <;> cases hstop : later.lookup (2 * n + 1) <;>
      simp_all

private theorem lookup_around {marks : Marks} {n key start stop : Nat} (hstart : key ≠ 2 * n)
    (hstop : key ≠ 2 * n + 1) :
    ((2 * n + 1, stop) :: marks ++ [(2 * n, start)]).lookup key = marks.lookup key := by
  rw [List.cons_append, List.lookup_cons, beq_false_of_ne hstop, List.lookup_append,
    List.lookup_cons, beq_false_of_ne hstart]
  exact Option.or_none

theorem Tells.group {whole : Text} {marks : Marks} {captured : List (Nat × Text)} {n : Nat}
    (h : Tells whole marks captured) (hnew : captured.lookup n = none) {start stop : Nat}
    {text : Text} (htext : (Span.mk start stop).text whole = text) :
    Tells whole ((2 * n + 1, stop) :: marks ++ [(2 * n, start)]) ((n, text) :: captured) := by
  have hnone : marks.lookup (2 * n) = none :=
    ((groupSpan?_eq_none (h.paired n)).mp (by simpa [hnew] using h.texts n)).1
  have hstart : ((2 * n + 1, stop) :: marks ++ [(2 * n, start)]).lookup (2 * n) = some start := by
    rw [List.cons_append, List.lookup_cons, beq_false_of_ne (by omega), List.lookup_append, hnone,
      List.lookup_cons_self]
    rfl
  have hstop : ((2 * n + 1, stop) :: marks ++ [(2 * n, start)]).lookup (2 * n + 1) = some stop :=
    List.lookup_cons_self ..
  refine ⟨fun m => ?_, fun m => ?_⟩
  -- Both marks of the group itself are new, those of the others are where they were.
  · by_cases hm : m = n
    · rw [hm, hstart, hstop]
      rfl
    · rw [lookup_around (by omega) (by omega), lookup_around (by omega) (by omega), h.paired m]
  · unfold Pattern.groupSpan?
    by_cases hm : m = n
    · rw [hm, hstart, hstop, List.lookup_cons_self, ← htext]
      rfl
    · rw [lookup_around (by omega) (by omega), lookup_around (by omega) (by omega),
        List.lookup_cons, beq_false_of_ne hm]
      exact h.texts m

/-- The preferred way takes a text from the front of what is left, with these captures. -/
def Takes (ways : Cursor → List Way) (taken back : Text) (captured : List (Nat × Text)) : Prop :=
  ∀ front before, ∃ before' marks,
    (ways ⟨before, front.length, taken ++ back⟩).head? =
      some (⟨before', (front ++ taken).length, back⟩, marks) ∧
    Tells (front ++ (taken ++ back)) marks captured

namespace Takes

variable {ways first second : Cursor → List Way} {taken taken' back : Text}
  {captured captured' : List (Nat × Text)}

theorem nothing (back : Text) : Takes (fun here => [(here, [])]) [] back [] :=
  fun front before => ⟨before, [], by rw [List.append_nil]; rfl, tells_nil _⟩

theorem goOn (h : Takes first taken (taken' ++ back) captured)
    (h' : Takes second taken' back captured') :
    Takes (fun here => Relabel.goOn (first here) second) (taken ++ taken') back
      (captured' ++ captured) := by
  intro front before
  obtain ⟨middle, marks, hways, htells⟩ := h front before
  obtain ⟨after, marks', hways', htells'⟩ := h' (front ++ taken) middle
  refine ⟨after, marks' ++ marks, ?_, ?_⟩
  · obtain ⟨others, hothers⟩ := List.head?_eq_some_iff.mp hways
    obtain ⟨others', hothers'⟩ := List.head?_eq_some_iff.mp hways'
    simp only [List.append_assoc] at hothers hothers' ⊢
    rw [hothers, Relabel.goOn, List.flatMap_cons, hothers']
    rfl
  · simp only [List.append_assoc] at htells htells' ⊢
    exact htells.append htells'

theorem seq {a b : Expr} (h : Takes a.ways taken (taken' ++ back) captured)
    (h' : Takes b.ways taken' back captured') :
    Takes (a.seq b).ways (taken ++ taken') back (captured' ++ captured) :=
  h.goOn h'

theorem char {accepted : CharClass} {c : Char} (h : accepted.accepts c = true) (back : Text) :
    Takes (Expr.char accepted).ways [c] back [] := by
  intro front before
  refine ⟨some c, [], ?_, tells_nil _⟩
  rw [List.singleton_append, Expr.ways_char_cons, if_pos h]
  simp

theorem group {e : Expr} {n : Nat} (h : Takes e.ways taken back captured)
    (hnew : captured.lookup n = none) :
    Takes (e.group n).ways taken back ((n, taken) :: captured) := by
  intro front before
  obtain ⟨after, marks, hways, htells⟩ := h front before
  have htaken : (Span.mk front.length (front ++ taken).length).text (front ++ (taken ++ back)) =
      taken := by simp [Span.text]
  refine ⟨after, _, ?_, htells.group hnew htaken⟩
  rw [Expr.ways, List.head?_map, hways]
  rfl

theorem altLeft {a b : Expr} (h : Takes a.ways taken back captured) :
    Takes (a.alt b).ways taken back captured := by
  intro front before
  obtain ⟨after, marks, hways, htells⟩ := h front before
  exact ⟨after, marks, by rw [Expr.ways, List.head?_append, hways]; rfl, htells⟩

theorem altRight {a b : Expr} (h : Takes b.ways taken back captured)
    (hnone : ∀ here : Cursor, here.rest = taken ++ back → a.ways here = []) :
    Takes (a.alt b).ways taken back captured := by
  intro front before
  obtain ⟨after, marks, hways, htells⟩ := h front before
  exact ⟨after, marks, by rw [Expr.ways, hnone _ rfl]; exact hways, htells⟩

theorem optional {e : Expr} (h : Takes e.ways taken back captured) :
    Takes (e.repeated 0 (some 1) true).ways taken back captured := by
  intro front before
  obtain ⟨after, marks, hways, htells⟩ := h front before
  refine ⟨after, marks, ?_, htells⟩
  rw [Expr.ways, copiesWays, goOn_start, optionalWays, inOrderOf, if_pos rfl, List.head?_append]
  have hdone : optionalWays e.ways true 0 = fun here => [(here, [])] := rfl
  rw [hdone, goOn_done, hways]
  rfl

theorem optional_none {e : Expr} (hnone : ∀ here : Cursor, here.rest = back → e.ways here = []) :
    Takes (e.repeated 0 (some 1) true).ways [] back [] := by
  intro front before
  refine ⟨before, [], ?_, tells_nil _⟩
  rw [Expr.ways, copiesWays, goOn_start, optionalWays, hnone _ rfl, List.append_nil]
  rfl

theorem star_none {e : Expr} (he : e.nullable = false)
    (hnone : ∀ here : Cursor, here.rest = back → e.ways here = []) :
    Takes (e.repeated 0 none true).ways [] back [] := by
  intro front before
  refine ⟨before, [], ?_, tells_nil _⟩
  rw [Expr.ways, copiesWays, goOn_start, starWays_eq (e.consuming_ways he), hnone _ rfl,
    List.append_nil]
  rfl

theorem star_cons {e : Expr} (he : e.nullable = false)
    (h : Takes e.ways taken (taken' ++ back) captured)
    (h' : Takes (e.repeated 0 none true).ways taken' back captured') :
    Takes (e.repeated 0 none true).ways (taken ++ taken') back (captured' ++ captured) := by
  intro front before
  have hstar : (e.repeated 0 none true).ways = starWays e.ways true :=
    funext fun here => goOn_start here _
  rw [hstar] at h' ⊢
  obtain ⟨after, marks, hways, htells⟩ := h.goOn h' front before
  refine ⟨after, marks, ?_, htells⟩
  rw [starWays_eq (e.consuming_ways he), inOrderOf, if_pos rfl, List.head?_append, hways]
  rfl

theorem plus {e : Expr} (h : Takes e.ways taken (taken' ++ back) captured)
    (h' : Takes (e.repeated 0 none true).ways taken' back captured') :
    Takes (e.repeated 1 none true).ways (taken ++ taken') back (captured' ++ captured) := by
  have hstar : (e.repeated 0 none true).ways = starWays e.ways true :=
    funext fun here => goOn_start here _
  have hplus : (e.repeated 1 none true).ways = fun here => Relabel.goOn (e.ways here)
      (starWays e.ways true) := funext fun here => by
    rw [Expr.ways, copiesWays_succ, copiesWays, goOn_start]
  rw [hplus]
  exact h.goOn (hstar ▸ h')

theorem starChar {accepted : CharClass} {run back : Text}
    (hrun : run.all accepted.accepts = true) (hback : Stops accepted.accepts back) :
    Takes (Expr.repeated (.char accepted) 0 none true).ways run back [] := by
  induction run with
  | nil =>
    exact .star_none rfl fun here hrest => Expr.ways_eq_nil_of_lead rfl (hrest ▸ hback)
  | cons c run ih =>
    obtain ⟨hc, hrun⟩ : accepted.accepts c = true ∧ run.all accepted.accepts = true := by
      simpa using hrun
    have hfirst : Takes (Expr.char accepted).ways [c] (run ++ back) [] := .char hc (run ++ back)
    exact Takes.star_cons rfl hfirst (ih hrun)

theorem plusChar {accepted : CharClass} {run back : Text} (hne : run ≠ [])
    (hrun : run.all accepted.accepts = true) (hback : Stops accepted.accepts back) :
    Takes (Expr.repeated (.char accepted) 1 none true).ways run back [] := by
  obtain ⟨c, run, rfl⟩ := List.exists_cons_of_ne_nil hne
  obtain ⟨hc, hrun⟩ : accepted.accepts c = true ∧ run.all accepted.accepts = true := by
    simpa using hrun
  have hfirst : Takes (Expr.char accepted).ways [c] (run ++ back) [] := .char hc (run ++ back)
  exact Takes.plus hfirst (starChar hrun hback)

theorem seqAll_append {es es' : List Expr}
    (h : Takes (Expr.seqAll es).ways taken (taken' ++ back) captured)
    (h' : Takes (Expr.seqAll es').ways taken' back captured') :
    Takes (Expr.seqAll (es ++ es')).ways (taken ++ taken') back (captured' ++ captured) := by
  rw [funext (Expr.ways_seqAll_append es es')]
  exact h.goOn h'

theorem seqAll_concat {es : List Expr} {e : Expr}
    (h : Takes (Expr.seqAll es).ways taken (taken' ++ back) captured)
    (h' : Takes e.ways taken' back captured') :
    Takes (Expr.seqAll (es ++ [e])).ways (taken ++ taken') back (captured' ++ captured) :=
  @seqAll_append taken taken' back captured captured' es [e] h h'

theorem seqAll_cons {e : Expr} {es : List Expr} (h : Takes e.ways taken (taken' ++ back) captured)
    (h' : Takes (Expr.seqAll es).ways taken' back captured') :
    Takes (Expr.seqAll (e :: es)).ways (taken ++ taken') back (captured' ++ captured) := by
  rw [funext (Expr.ways_seqAll_cons e es)]
  exact h.goOn h'

theorem literal (word back : Text) : Takes (Expr.literal false word).ways word back [] := by
  induction word with
  | nil => exact .nothing back
  | cons c cs ih =>
    have hfirst : Takes (Expr.char (.single c)).ways [c] (cs ++ back) [] :=
      .char ((CharClass.accepts_single c c).mpr rfl) (cs ++ back)
    exact Takes.seqAll_cons hfirst ih

theorem altAll {earlier later : List Expr} {e : Expr} (h : Takes e.ways taken back captured)
    (hearlier : ∀ other ∈ earlier, ∀ here : Cursor, here.rest = taken ++ back → other.ways here = []) :
    Takes (Expr.altAll (earlier ++ e :: later)).ways taken back captured := by
  induction earlier with
  | nil =>
    cases later with
    | nil => exact h
    | cons next others => exact h.altLeft
  | cons other others ih =>
    obtain ⟨hother, hothers⟩ := List.forall_mem_cons.mp hearlier
    have hrest := (ih hothers).altRight hother
    -- The earlier alternatives have no way at all, so the preferred one is the first of the rest.
    cases hshape : others ++ e :: later with
    | nil => simp at hshape
    | cons next rest => rwa [List.cons_append, hshape, Expr.altAll, ← hshape]; exact nofun

end Takes

end Relabel
