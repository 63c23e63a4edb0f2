import Relabel.Proofs.Template.Tokens

/-!
# The segments of a template

A template is text with variables in between. Read from left to right, a brace group that spells a
variable is a segment of its own, and so is what lies between two of them. Groups hold no braces,
so the segments are found by looking at one opening brace after the other.
-/

namespace Relabel

namespace Text

/-- Neither brace stands in the text. -/
def BraceFree (text : Text) : Prop := '{' ∉ text ∧ '}' ∉ text

instance (text : Text) : Decidable (BraceFree text) := by
  unfold BraceFree
  infer_instance

theorem braceFree_nil : BraceFree [] := ⟨List.not_mem_nil, List.not_mem_nil⟩

theorem braceFree_cons {c : Char} :
    BraceFree (c :: text) ↔ c ≠ '{' ∧ c ≠ '}' ∧ BraceFree text := by
  simp only [BraceFree, List.mem_cons, not_or]
  exact ⟨fun ⟨⟨hopen, h⟩, hclose, h'⟩ => ⟨Ne.symm hopen, Ne.symm hclose, h, h'⟩,
    fun ⟨hopen, hclose, h, h'⟩ => ⟨⟨Ne.symm hopen, h⟩, Ne.symm hclose, h'⟩⟩

theorem braceFree_append {front back : Text} :
    BraceFree (front ++ back) ↔ BraceFree front ∧ BraceFree back := by
  simp only [BraceFree, List.mem_append, not_or]
  exact and_and_and_comm

end Text

namespace Template

open Text

theorem groupBody?_append (h : BraceFree body) (rest : Text) :
    groupBody? (body ++ '}' :: rest) = some body := by
  induction body with
  | nil => rfl
  | cons c cs ih =>
    obtain ⟨hopen, hclose, hcs⟩ := braceFree_cons.mp h
    simp [groupBody?, hopen, hclose, ih hcs]

theorem exists_of_groupBody? (h : groupBody? text = some body) :
    BraceFree body ∧ ∃ rest, text = body ++ '}' :: rest := by
  induction text generalizing body with
  | nil => cases h
  | cons c cs ih =>
    rw [groupBody?] at h
    split at h
    case isTrue hc =>
      obtain rfl := Option.some.inj h
      exact ⟨braceFree_nil, cs, by rw [hc, List.nil_append]⟩
    case isFalse hclose =>
      split at h
      case isTrue => cases h
      case isFalse hopen =>
        obtain ⟨inner, hinner, rfl⟩ := Option.map_eq_some_iff.mp h
        obtain ⟨hfree, rest, rfl⟩ := ih hinner
        exact ⟨braceFree_cons.mpr ⟨hopen, hclose, hfree⟩, rest, rfl⟩

theorem groups_append (h : BraceFree front) (rest : Text) :
    groups (front ++ rest) = groups rest := by
  induction front with
  | nil => rfl
  | cons c cs ih =>
    obtain ⟨hopen, -, hcs⟩ := braceFree_cons.mp h
    rw [List.cons_append, groups, if_neg hopen, ih hcs]

theorem braceFree_of_mem_groups (h : body ∈ groups template) : BraceFree body := by
  induction template with
  | nil => cases h
  | cons c rest ih =>
    rw [groups] at h
    split at h
    case isTrue =>
      rcases List.mem_append.mp h with h | h
      · exact (exists_of_groupBody? (Option.mem_toList.mp h)).1
      · exact ih h
    case isFalse => exact ih h

def isVariable (body : Text) : Bool :=
  VariableKind.all.any fun kind => (Form.readAs? body kind).isSome

theorem isVariable_iff :
    isVariable body = true ↔ ∃ kind form, Form.readAs? body kind = some form := by
  simp only [isVariable, List.any_eq_true, Option.isSome_iff_exists]
  exact ⟨fun ⟨kind, _, h⟩ => ⟨kind, h⟩, fun ⟨kind, h⟩ => ⟨kind, VariableKind.mem_all kind, h⟩⟩

def tokenBody? : Text → Option Text
  | [] => none
  | c :: rest => if c = '{' then (groupBody? rest).filter isVariable else none

inductive Segment
  | text (content : Text)
  | token (body : Text)
deriving DecidableEq, Repr

namespace Segment

def spelled : Segment → Text
  | text content => content
  | token body => enclose body

def mapBody (f : Text → Text) : Segment → Segment
  | text content => text content
  | token body => token (f body)

def prepend (c : Char) : List Segment → List Segment
  | text content :: rest => text (c :: content) :: rest
  | segments => text [c] :: segments

def spell (segments : List Segment) : Text := segments.flatMap spelled

@[simp] theorem spell_cons (s : Segment) (rest : List Segment) :
    spell (s :: rest) = s.spelled ++ spell rest := rfl

@[simp] theorem spell_append (front back : List Segment) :
    spell (front ++ back) = spell front ++ spell back := List.flatMap_append

@[simp] theorem spell_prepend (c : Char) (segments : List Segment) :
    spell (prepend c segments) = c :: spell segments := by
  unfold prepend
  split <;> rfl

@[simp] theorem map_mapBody_prepend (f : Text → Text) (c : Char) (segments : List Segment) :
    (prepend c segments).map (mapBody f) = prepend c (segments.map (mapBody f)) := by
  unfold prepend
  split
  case h_1 => rfl
  case h_2 h =>
    cases segments with
    | nil => rfl
    | cons s rest =>
      cases s with
      | text content => exact absurd rfl (h content rest)
      | token body => rfl

theorem token_mem_prepend {segments : List Segment} :
    token body ∈ prepend c segments ↔ token body ∈ segments := by
  unfold prepend
  split <;> simp

end Segment

open Segment

/-- Cuts a text of which `skip` more characters belong to a variable already found. -/
def segmentsFrom (skip : Nat) : Text → List Segment
  | [] => []
  | c :: rest =>
    match skip with
    | skip + 1 => segmentsFrom skip rest
    | 0 =>
      match tokenBody? (c :: rest) with
      | some body => .token body :: segmentsFrom (body.length + 1) rest
      | none => prepend c (segmentsFrom 0 rest)

def segments (template : Text) : List Segment := segmentsFrom 0 template

theorem segmentsFrom_append (front rest : Text) :
    segmentsFrom front.length (front ++ rest) = segments rest := by
  induction front with
  | nil => rfl
  | cons c cs ih => rw [List.length_cons, List.cons_append, segmentsFrom, ih]

theorem tokenBody?_enclose (h : BraceFree body) (hvariable : isVariable body = true)
    (rest : Text) : tokenBody? (enclose body ++ rest) = some body := by
  rw [enclose, List.cons_append, List.cons_append, tokenBody?, if_pos rfl, List.append_assoc]
  rw [show ['}'] ++ rest = '}' :: rest from rfl, groupBody?_append h, Option.filter_some,
    if_pos hvariable]

theorem segments_enclose (h : BraceFree body) (hvariable : isVariable body = true)
    (rest : Text) : segments (enclose body ++ rest) = .token body :: segments rest := by
  have htoken := tokenBody?_enclose h hvariable rest
  have hrest := segmentsFrom_append (body ++ ['}']) rest
  rw [List.length_append] at hrest
  rw [enclose, List.cons_append, List.cons_append] at htoken ⊢
  rw [segments, segmentsFrom, htoken]
  exact congrArg _ hrest

theorem segments_cons (h : tokenBody? (c :: rest) = none) :
    segments (c :: rest) = prepend c (segments rest) := by
  rw [segments, segmentsFrom, h]
  rfl

/-- A template begins with a variable, or with a character at which none begins. -/
theorem segments_induction {motive : Text → Prop} (nil : motive [])
    (token : ∀ body rest, BraceFree body → isVariable body = true → motive rest →
      motive (enclose body ++ rest))
    (char : ∀ c rest, tokenBody? (c :: rest) = none → motive rest → motive (c :: rest))
    (template : Text) : motive template := by
  -- A variable takes several characters at once, so the induction is on the length.
  induction hlength : template.length using Nat.strongRecOn generalizing template with
  | _ length ih =>
    cases template with
    | nil => exact nil
    | cons c rest =>
      cases htoken : tokenBody? (c :: rest) with
      | none => exact char c rest htoken (ih rest.length (by simp [← hlength]) rest rfl)
      | some body =>
        rw [tokenBody?] at htoken
        split at htoken
        case isFalse => cases htoken
        case isTrue hc =>
          obtain ⟨hbody, hvariable⟩ := Option.filter_eq_some_iff.mp htoken
          obtain ⟨hfree, behind, rfl⟩ := exists_of_groupBody? hbody
          have hshape : c :: (body ++ '}' :: behind) = enclose body ++ behind := by
            simp [enclose, hc]
          rw [hshape]
          exact token body behind hfree hvariable
            (ih behind.length (by simp [← hlength]; omega) behind rfl)

theorem spell_segments (template : Text) : spell (segments template) = template := by
  induction template using segments_induction with
  | nil => rfl
  | token body rest hfree hvariable ih =>
    rw [segments_enclose hfree hvariable, spell_cons, ih]
    rfl
  | char c rest h ih => rw [segments_cons h, spell_prepend, ih]

theorem groups_enclose (h : BraceFree body) (rest : Text) :
    groups (enclose body ++ rest) = body :: groups rest := by
  rw [enclose, List.cons_append, List.cons_append, groups, if_pos rfl, List.append_assoc,
    groups_append h, show ['}'] ++ rest = '}' :: rest from rfl, groupBody?_append h, groups,
    if_neg (by decide)]
  rfl

theorem mem_groups_of_token_mem (h : .token body ∈ segments template) :
    body ∈ groups template ∧ BraceFree body ∧ isVariable body = true := by
  induction template using segments_induction with
  | nil => cases h
  | token first rest hfree hvariable ih =>
    rw [segments_enclose hfree hvariable] at h
    rw [groups_enclose hfree]
    rcases List.mem_cons.mp h with heq | h
    · obtain rfl := Segment.token.inj heq
      exact ⟨List.mem_cons_self, hfree, hvariable⟩
    · exact ⟨List.mem_cons_of_mem _ (ih h).1, (ih h).2⟩
  | char c rest hnone ih =>
    rw [segments_cons hnone] at h
    obtain ⟨hgroups, hrest⟩ := ih (token_mem_prepend.mp h)
    -- A brace at which no variable begins may still open a group of its own.
    refine ⟨?_, hrest⟩
    rw [groups]
    split
    · exact List.mem_append_right _ hgroups
    · exact hgroups

theorem token_mem_of_mem_groups (h : body ∈ groups template) (hvariable : isVariable body = true) :
    .token body ∈ segments template := by
  induction template using segments_induction with
  | nil => cases h
  | token first rest hfree hfirst ih =>
    rw [groups_enclose hfree] at h
    rw [segments_enclose hfree hfirst]
    rcases List.mem_cons.mp h with rfl | h
    · exact List.mem_cons_self
    · exact List.mem_cons_of_mem _ (ih h)
  | char c rest hnone ih =>
    rw [segments_cons hnone, token_mem_prepend]
    rw [groups] at h
    split at h
    case isFalse => exact ih h
    case isTrue hc =>
      rcases List.mem_append.mp h with hhere | h
      · -- The group that opens here would be a variable at the front.
        rw [tokenBody?, if_pos hc, Option.mem_toList.mp hhere, Option.filter_some,
          if_pos hvariable] at hnone
        cases hnone
      · exact ih h

end Template

end Relabel
