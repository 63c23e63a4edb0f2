import Relabel.Proofs.Pattern.Finding
import Relabel.Proofs.Template.Protection
import Relabel.Proofs.Template.RoundTrip
import Relabel.Proofs.Template.Shapes

/-!
# The matches of the grammar

The pattern of a kind finds just the brace groups that read as variables of the kind, each where it
stands and with the parts of the variable as its groups. So the patterns may be run one by one, and
a variable may be found again by its text.
-/

namespace Relabel

open Text Grammar

namespace Form

def captures : Form → List (Option Text)
  | stem t | extension t => [t.map Transform.label]
  | parent levels t => [unlessEmpty levels, t.map Transform.label]
  | picture _ item none t => [some item.label, none, none, t.map Transform.label]
  | picture _ item (some field) t =>
    [none, some item.label, some field.label, t.map Transform.label]
  | index f => [f.group.map ('$' :: ·), unlessEmpty f.start, some ('%' :: f.width ++ ['d']),
      some f.width, unlessEmpty f.system.label, unlessEmpty f.step, skipText f.skip]
  | song tag t => [some tag.label, t.map Transform.label]
  | digest algorithm t => [some algorithm.label, t.map Transform.label]
  | time item field t => [some item.label, some field.label, t.map Transform.label]
  | exifTool tag t => [some tag, t.map Transform.label]
  | capture group (.text t) => [group.map ('$' :: ·), some t.label, none]
  | capture group (.date field) => [group.map ('$' :: ·), none, some field.label]
  | column digits t => [some digits, t.map Transform.label]

theorem lookup_asGroup (number n : Nat) (text : Option Text) :
    (asGroup number text).lookup n = if n = number then text else none := by
  cases text with
  | none => exact (ite_self none).symm
  | some text =>
    rw [asGroup, Option.map_some, Option.toList_some, List.lookup_cons]
    by_cases h : n = number
    · simp [h]
    · simp [h, beq_false_of_ne h]

theorem map_lookup_groups (f : Form) :
    (List.range f.kind.groupCount).map (fun n => f.groups.lookup (n + 1)) = f.captures := by
  rcases f with t | t | ⟨levels, t⟩ | ⟨short, item, _ | field, t⟩ | f | ⟨tag, t⟩ |
    ⟨algorithm, t⟩ | ⟨item, field, t⟩ | ⟨tag, t⟩ | ⟨group, t | field⟩ | ⟨digits, t⟩ <;>
  simp [groups, frontGroups, indexGroups, applied, captures, kind, VariableKind.groupCount,
    List.range_succ, List.lookup_append, lookup_asGroup, List.lookup_cons]

end Form

namespace Template

-- ---------------------------------------------------------------------------
-- Forms in a template
-- ---------------------------------------------------------------------------

def formAt? (kind : VariableKind) : Text → Option Form
  | [] => none
  | c :: rest => if c = '{' then (groupBody? rest).bind (Form.readAs? · kind) else none

theorem formAt?_eq_some_iff {kind : VariableKind} {f : Form} : formAt? kind text = some f ↔
    f.kind = kind ∧ f.WellFormed ∧ f.spelling <+: text := by
  cases text with
  | nil => simp [formAt?, Form.spelling]
  | cons c rest =>
    constructor
    · intro h
      rw [formAt?] at h
      split at h
      case isFalse => cases h
      case isTrue hc =>
        obtain ⟨body, hbody, hform⟩ := Option.bind_eq_some_iff.mp h
        obtain ⟨hkind, hf, rfl⟩ := Form.readAs?_eq_some_iff.mp hform
        obtain ⟨-, back, rfl⟩ := exists_of_groupBody? hbody
        exact ⟨hkind, hf, back, by simp [Form.spelling, hc]⟩
    · rintro ⟨rfl, hf, hstands⟩
      obtain ⟨rfl, -⟩ := List.cons_prefix_cons.mp hstands
      rw [formAt?, if_pos rfl, groupBody?_of_prefix (Form.braceFree_body hf) hstands]
      exact Form.readAs?_eq_some_iff.mpr ⟨rfl, hf, rfl⟩

def placedForms (kind : VariableKind) (start : Nat) : Text → List (Nat × Form)
  | [] => []
  | c :: rest =>
    ((formAt? kind (c :: rest)).map (start, ·)).toList ++ placedForms kind (start + 1) rest

theorem map_snd_placedForms (kind : VariableKind) (start : Nat) (text : Text) :
    (placedForms kind start text).map (·.2) = (groups text).filterMap (Form.readAs? · kind) := by
  induction text generalizing start with
  | nil => rfl
  | cons c rest ih =>
    rw [placedForms, List.map_append, ih, groups, formAt?]
    split
    · cases hbody : groupBody? rest with
      | none => rfl
      | some body =>
        rw [Option.toList_some, List.singleton_append, List.filterMap_cons, Option.bind_some]
        cases Form.readAs? body kind <;> rfl
    · rfl

theorem placedForms_append {front : Text} (h : '{' ∉ front) (kind : VariableKind) (start : Nat)
    (rest : Text) : placedForms kind start (front ++ rest) =
      placedForms kind (start + front.length) rest := by
  induction front generalizing start with
  | nil => rfl
  | cons c front ih =>
    rw [List.mem_cons, not_or] at h
    rw [List.cons_append, placedForms, formAt?, if_neg (Ne.symm h.1), ih h.2, List.length_cons]
    exact congrArg (placedForms kind · rest) (by omega)

theorem placedForms_spelling {f : Form} (h : f.WellFormed) (start : Nat) (back : Text) :
    placedForms f.kind start (f.spelling ++ back) =
      (start, f) :: placedForms f.kind (start + f.spelling.length) back := by
  have hform : formAt? f.kind ('{' :: (f.body ++ '}' :: back)) = some f :=
    formAt?_eq_some_iff.mpr ⟨rfl, h, back, by simp [Form.spelling]⟩
  have hbehind : '{' ∉ f.body ++ ['}'] := by simpa using (Form.braceFree_body h).1
  have hspelling : f.spelling ++ back = '{' :: (f.body ++ '}' :: back) := by simp [Form.spelling]
  rw [hspelling, placedForms, hform, show f.body ++ '}' :: back = (f.body ++ ['}']) ++ back by simp,
    placedForms_append hbehind]
  simp [Form.spelling, Nat.add_assoc, Nat.add_comm]

end Template

-- ---------------------------------------------------------------------------
-- Matches of a pattern
-- ---------------------------------------------------------------------------

theorem VariableKind.tidy_expr (kind : VariableKind) : kind.expr.Tidy := by
  cases kind <;> decide

def Match.captures (m : Match) (whole : Text) : List (Option Text) :=
  m.groups.map fun group => group.map (·.text whole)

structure Match.Holds (m : Match) (whole : Text) (start : Nat) (f : Form) : Prop where
  span : m.span = ⟨start, start + f.spelling.length⟩
  captures : m.captures whole = f.captures

namespace Template

theorem exists_search_form {f : Form} (h : f.WellFormed) (front back : Text)
    (before : Option Char) : ∃ found,
      f.kind.expr.program.search before front.length (f.spelling ++ back) = some found ∧
        (f.kind.pattern.matchOf found).Holds (front ++ (f.spelling ++ back)) front.length f := by
  obtain ⟨after, marks, hways, htells⟩ := Form.takes_form h back front before
  refine ⟨_, by rw [Expr.search_program f.kind.tidy_expr, hways], ?_, ?_⟩
  · rw [Pattern.matchOf, List.length_append]
  · rw [← Form.map_lookup_groups, Match.captures, Pattern.matchOf, List.map_map]
    exact List.map_congr_left fun n _ => htells.texts (n + 1)

theorem search_cons {kind : VariableKind} {c : Char} {rest : Text}
    (h : formAt? kind (c :: rest) = none) (before : Option Char) (position : Nat) :
    kind.expr.program.search before position (c :: rest) =
      kind.expr.program.search (some c) (position + 1) rest := by
  have hways : kind.expr.ways ⟨before, position, c :: rest⟩ = [] := by
    refine Expr.ways_eq_nil fun taken htaken hstands => ?_
    obtain ⟨f, hkind, hf, rfl⟩ := Form.exists_of_spells htaken
    rw [formAt?_eq_some_iff.mpr ⟨hkind, hf, hstands⟩] at h
    cases h
  rw [Expr.search_program kind.tidy_expr, hways]
  rfl

/-- A search finds the first form that is left, if there is one. -/
theorem search_eq (kind : VariableKind) (front rest : Text) (before : Option Char) :
    match placedForms kind front.length rest with
    | [] => kind.expr.program.search before front.length rest = none
    | (start, f) :: _ => ∃ found,
      kind.expr.program.search before front.length rest = some found ∧
        (kind.pattern.matchOf found).Holds (front ++ rest) start f := by
  induction rest generalizing front before with
  | nil =>
    have hways : kind.expr.ways ⟨before, front.length, []⟩ = [] := by
      refine Expr.ways_eq_nil fun taken htaken hstands => ?_
      obtain ⟨f, -, -, rfl⟩ := Form.exists_of_spells htaken
      simp [Form.spelling] at hstands
    rw [placedForms]
    simp only
    rw [Expr.search_program kind.tidy_expr, hways]
    rfl
  | cons c rest ih =>
    cases hform : formAt? kind (c :: rest) with
    | some f =>
      obtain ⟨rfl, hf, back, hback⟩ := formAt?_eq_some_iff.mp hform
      rw [placedForms, hform, ← hback]
      exact exists_search_form hf front back before
    | none =>
      -- No way leads on from here, so the search begins again behind the character.
      have hih := ih (front ++ [c]) (some c)
      rw [List.length_append, List.length_singleton, List.append_assoc] at hih
      rw [placedForms, hform, search_cons hform]
      exact hih

theorem find?_eq (kind : VariableKind) (front rest : Text) :
    match placedForms kind front.length rest with
    | [] => kind.pattern.find? (front ++ rest) front.length = none
    | (start, f) :: _ => ∃ m, kind.pattern.find? (front ++ rest) front.length = some m ∧
        m.Holds (front ++ rest) start f := by
  have hsearch := search_eq kind front rest front.getLast?
  rw [Pattern.find?_append]
  cases hplaced : placedForms kind front.length rest with
  | nil =>
    rw [hplaced] at hsearch
    exact congrArg (Option.map _) hsearch
  | cons first others =>
    rw [hplaced] at hsearch
    obtain ⟨found, hfound, hholds⟩ := hsearch
    exact ⟨_, congrArg (Option.map _) hfound, hholds⟩

theorem exists_behind {kind : VariableKind} {front rest : Text} {start : Nat} {f : Form}
    {others : List (Nat × Form)} (h : placedForms kind front.length rest = (start, f) :: others) :
    ∃ front' rest', front ++ rest = front' ++ rest' ∧ front'.length = start + f.spelling.length ∧
      rest'.length < rest.length ∧ others = placedForms kind front'.length rest' := by
  induction rest generalizing front with
  | nil => cases h
  | cons c rest ih =>
    cases hform : formAt? kind (c :: rest) with
    | some g =>
      obtain ⟨rfl, hg, back, hback⟩ := formAt?_eq_some_iff.mp hform
      rw [← hback, placedForms_spelling hg] at h
      obtain ⟨hfirst, rfl⟩ := List.cons.inj h
      obtain ⟨rfl, rfl⟩ := Prod.mk.inj hfirst
      -- No form begins inside another one, so the others are those behind it.
      refine ⟨front ++ g.spelling, back, by rw [← hback, List.append_assoc], by simp, ?_, by simp⟩
      rw [← hback]
      simp [Form.spelling]
      omega
    | none =>
      rw [placedForms, hform, Option.map_none, Option.toList_none, List.nil_append] at h
      have hbehind : placedForms kind (front ++ [c]).length rest = (start, f) :: others := by
        simpa using h
      obtain ⟨front', rest', hsplit, hlength, hless, hothers⟩ := ih hbehind
      exact ⟨front', rest', by simpa using hsplit, hlength, Nat.lt_succ_of_lt hless, hothers⟩

theorem forall₂_matchesFrom (kind : VariableKind) {front rest : Text} {bound : Nat}
    (hbound : rest.length < bound) (lastStop : Option Nat) :
    List.Forall₂ (fun m placed => m.Holds (front ++ rest) placed.1 placed.2)
      (kind.pattern.matchesFrom (front ++ rest) bound front.length lastStop)
      (placedForms kind front.length rest) := by
  induction bound generalizing front rest lastStop with
  | zero => omega
  | succ bound ih =>
    have hfind := find?_eq kind front rest
    cases hplaced : placedForms kind front.length rest with
    | nil =>
      rw [hplaced] at hfind
      simp only at hfind
      rw [Pattern.matchesFrom, Pattern.next?, hfind]
      exact .nil
    | cons first others =>
      rw [hplaced] at hfind
      obtain ⟨start, f⟩ := first
      obtain ⟨m, hm, hholds⟩ := hfind
      obtain ⟨front', rest', hsplit, hlength, hless, rfl⟩ := exists_behind hplaced
      -- Since no form is empty, the next match is looked for where this one ends.
      have hempty : m.span.isEmpty = false := by simp [hholds.span, Span.isEmpty, Form.spelling]
      have hnext : kind.pattern.next? (front ++ rest) front.length lastStop = some m := by
        rw [Pattern.next?, hm]
        simp [hempty]
      have hstop : m.span.stop = front'.length := by rw [hholds.span, hlength]
      rw [Pattern.matchesFrom, hnext]
      simp only [hempty, Bool.false_eq_true, if_false, hstop]
      rw [hsplit] at hholds ⊢
      exact List.Forall₂.cons hholds (ih (by omega) _)

/-- The matches are the forms, from left to right. -/
theorem forall₂_allMatches (kind : VariableKind) (template : Text) :
    List.Forall₂ (fun m placed => m.Holds template placed.1 placed.2)
      (kind.pattern.allMatches template) (placedForms kind 0 template) :=
  @forall₂_matchesFrom kind [] template _ (Nat.lt_succ_self _) none

-- ---------------------------------------------------------------------------
-- Where forms stand
-- ---------------------------------------------------------------------------

theorem mem_placedForms_iff {kind : VariableKind} {start place : Nat} {f : Form} :
    (place, f) ∈ placedForms kind start text ↔ f.kind = kind ∧ f.WellFormed ∧
      ∃ front back, text = front ++ (f.spelling ++ back) ∧ place = start + front.length := by
  induction text generalizing start with
  | nil => simp [placedForms, Form.spelling]
  | cons c rest ih =>
    rw [placedForms, List.mem_append, ih]
    constructor
    · rintro (hhere | ⟨hkind, hf, front, back, rfl, rfl⟩)
      · obtain ⟨g, hg, hpair⟩ := Option.map_eq_some_iff.mp (Option.mem_toList.mp hhere)
        obtain ⟨rfl, rfl⟩ := Prod.mk.inj hpair
        obtain ⟨hkind, hf, back, hback⟩ := formAt?_eq_some_iff.mp hg
        exact ⟨hkind, hf, [], back, hback.symm, rfl⟩
      · exact ⟨hkind, hf, c :: front, back, rfl, by simp; omega⟩
    · rintro ⟨hkind, hf, front, back, hsplit, rfl⟩
      cases front with
      | nil =>
        have hform := formAt?_eq_some_iff.mpr ⟨hkind, hf, back, hsplit.symm⟩
        exact .inl (by rw [hform]; simp)
      | cons d front =>
        obtain ⟨-, rfl⟩ := List.cons.inj hsplit
        exact .inr ⟨hkind, hf, front, back, rfl, by simp; omega⟩

theorem length_le_of_append_eq {front behind other rest : Text}
    (h : front ++ behind = other ++ '{' :: rest) (hfront : '{' ∉ front) : front.length ≤ other.length := by
  rcases List.append_eq_append_iff.mp h with ⟨more, rfl, -⟩ | ⟨more, rfl, hmore⟩
  · simp
  · cases more with
    | nil => simp
    | cons c more =>
      obtain ⟨rfl, -⟩ := List.cons.inj hmore
      simp at hfront

theorem stop_le_of_start_lt {f f' : Form} (h : f.WellFormed) {front back front' back' : Text}
    (hsplit : front ++ (f.spelling ++ back) = front' ++ (f'.spelling ++ back'))
    (hlt : front.length < front'.length) : front.length + f.spelling.length ≤ front'.length := by
  rcases List.append_eq_append_iff.mp hsplit with ⟨more, rfl, hmore⟩ | ⟨more, rfl, -⟩
  · cases more with
    | nil => simp at hlt
    | cons c more =>
      -- The second form would open a brace inside the first, which holds none.
      have hbody : '{' ∉ f.body ++ ['}'] := by simpa using (Form.braceFree_body h).1
      have htail : (f.body ++ ['}']) ++ back = more ++ '{' :: (f'.body ++ '}' :: back') := by
        simpa [Form.spelling] using (List.cons.inj (by simpa [Form.spelling] using hmore)).2
      have hle := length_le_of_append_eq htail hbody
      simp [Form.spelling] at hle ⊢
      omega
  · rw [List.length_append] at hlt
    omega

theorem eq_of_same_start {f f' : Form} (h : f.WellFormed) (h' : f'.WellFormed)
    {front back front' back' : Text}
    (hsplit : front ++ (f.spelling ++ back) = front' ++ (f'.spelling ++ back'))
    (hlength : front.length = front'.length) : f = f' := by
  obtain ⟨-, hsame⟩ := List.append_inj hsplit hlength
  have hbody : groupBody? (f.body ++ '}' :: back) = groupBody? (f'.body ++ '}' :: back') :=
    congrArg groupBody? (by simpa [Form.spelling] using hsame)
  rw [groupBody?_append (Form.braceFree_body h), groupBody?_append (Form.braceFree_body h')] at hbody
  have hread := Form.readAs?_eq_some_iff.mpr ⟨rfl, h, rfl⟩
  have hread' := Form.readAs?_eq_some_iff.mpr ⟨rfl, h', rfl⟩
  rw [← Option.some.inj hbody] at hread'
  rw [Form.kind_unique hread hread', hread'] at hread
  exact (Option.some.inj hread).symm

theorem pairwise_placedForms (kind : VariableKind) (start : Nat) (text : Text) :
    (placedForms kind start text).Pairwise fun a b => a.1 + a.2.spelling.length ≤ b.1 := by
  induction text generalizing start with
  | nil => exact .nil
  | cons c rest ih =>
    rw [placedForms]
    cases hform : formAt? kind (c :: rest) with
    | none => exact ih (start + 1)
    | some f =>
      obtain ⟨rfl, hf, back, hback⟩ := formAt?_eq_some_iff.mp hform
      refine List.pairwise_cons.mpr ⟨fun ⟨place, g⟩ hmem => ?_, ih (start + 1)⟩
      obtain ⟨-, -, front', back', rfl, rfl⟩ := mem_placedForms_iff.mp hmem
      have hle : 0 + f.spelling.length ≤ (c :: front').length :=
        @stop_le_of_start_lt f g hf [] back (c :: front') back' hback (by simp)
      rw [List.length_cons] at hle
      show start + f.spelling.length ≤ start + 1 + front'.length
      omega

end Template

end Relabel
