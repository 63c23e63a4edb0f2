import Relabel.Proofs.Template.Matches

/-!
# Carving a template

Whatever surrounds it, a brace group is a variable of one kind or none, and the patterns of all
kinds together carve the variables out of a template without getting in each other's way.
-/

namespace Relabel

open Text

namespace Template

/-- The match is the brace group with this body behind that text. -/
def IsGroup (m : Match) (front body : Text) : Prop :=
  m.span = ⟨front.length, front.length + (enclose body).length⟩

/-- How the patterns of the kinds carve a template. -/
structure Carved (template : Text) : Prop where
  isGroup : ∀ kind : VariableKind, ∀ m ∈ kind.pattern.allMatches template,
    ∃ front body back : Text,
      template = front ++ enclose body ++ back ∧ BraceFree body ∧ IsGroup m front body
  /-- A brace group is matched as it is when it stands alone. -/
  asAlone : ∀ (kind : VariableKind) (front body back : Text) (captured : List (Option Text)),
    template = front ++ enclose body ++ back → BraceFree body →
      ((∃ m ∈ kind.pattern.allMatches template,
          IsGroup m front body ∧ m.captures template = captured) ↔
        ∃ m ∈ kind.pattern.allMatches (enclose body),
          IsGroup m [] body ∧ m.captures (enclose body) = captured)
  oneKind : ∀ kind kind' : VariableKind, ∀ m ∈ kind.pattern.allMatches template,
    ∀ m' ∈ kind'.pattern.allMatches template, m.span = m'.span → kind = kind'
  complete : ∀ kind : VariableKind, ∀ m ∈ kind.pattern.allMatches template,
    m.groups.length = kind.groupCount
  inOrder : ∀ kind : VariableKind, (kind.pattern.allMatches template).Pairwise
    fun m m' => m.span.stop ≤ m'.span.start
  extracted : ∀ kind : VariableKind, ∃ forms : List Form,
    List.Forall₂ (fun m f => m.span.text template = f.spelling ∧ m.captures template = f.captures)
      (kind.pattern.allMatches template) forms ∧
    (∀ f ∈ forms, f.kind = kind ∧ f.WellFormed) ∧
    tokensOf template kind =
      forms.mapM fun f => do return ⟨f.spelling, ← f.resolve f.spelling⟩
  apart : ∀ kind kind' : VariableKind, ∀ m ∈ kind.pattern.allMatches template,
    ∀ m' ∈ kind'.pattern.allMatches template,
      m.span = m'.span ∨ m.span.stop ≤ m'.span.start ∨ m'.span.stop ≤ m.span.start
  notInside : ∀ kind kind' : VariableKind, ∀ m ∈ kind.pattern.allMatches template,
    ∀ m' ∈ kind'.pattern.allMatches template,
      m.span.text template <:+: m'.span.text template →
        m.span.text template = m'.span.text template
  everywhere : ∀ kind : VariableKind, ∀ m ∈ kind.pattern.allMatches template,
    ∀ front back : Text, template = front ++ m.span.text template ++ back →
      ∃ m' ∈ kind.pattern.allMatches template,
        m'.span = ⟨front.length, front.length + (m.span.text template).length⟩ ∧
          m'.captures template = m.captures template

-- ---------------------------------------------------------------------------
-- Matches and forms
-- ---------------------------------------------------------------------------

section

variable {R : α → β → Prop} {as : List α} {bs : List β}

theorem exists_of_mem_left (h : List.Forall₂ R as bs) (ha : a ∈ as) : ∃ b ∈ bs, R a b := by
  induction h with
  | nil => cases ha
  | cons hr _ ih =>
    rcases List.mem_cons.mp ha with rfl | ha
    · exact ⟨_, List.mem_cons_self, hr⟩
    · obtain ⟨b, hb, hr⟩ := ih ha
      exact ⟨b, List.mem_cons_of_mem _ hb, hr⟩

theorem exists_of_mem_right (h : List.Forall₂ R as bs) (hb : b ∈ bs) : ∃ a ∈ as, R a b :=
  exists_of_mem_left h.flip hb

theorem pairwise_of_forall₂ {S : β → β → Prop} {T : α → α → Prop} (h : List.Forall₂ R as bs)
    (hbs : bs.Pairwise S) (himp : ∀ a a' b b', R a b → R a' b' → S b b' → T a a') :
    as.Pairwise T := by
  induction h with
  | nil => exact .nil
  | cons hr hrest ih =>
    rw [List.pairwise_cons] at hbs ⊢
    refine ⟨fun a' ha' => ?_, ih hbs.2⟩
    obtain ⟨b', hb', hr'⟩ := exists_of_mem_left hrest ha'
    exact himp _ a' _ b' hr hr' (hbs.1 b' hb')

end

theorem exists_form_of_mem {kind : VariableKind} {m : Match}
    (h : m ∈ kind.pattern.allMatches template) : ∃ (f : Form) (front back : Text),
      f.kind = kind ∧ f.WellFormed ∧ template = front ++ (f.spelling ++ back) ∧
        m.Holds template front.length f := by
  obtain ⟨⟨place, f⟩, hmem, hholds⟩ := exists_of_mem_left (forall₂_allMatches kind template) h
  obtain ⟨hkind, hf, front, back, hsplit, rfl⟩ := mem_placedForms_iff.mp hmem
  exact ⟨f, front, back, hkind, hf, hsplit, by simpa using hholds⟩

theorem exists_match_of_form {f : Form} (h : f.WellFormed) {front back : Text}
    (hsplit : template = front ++ (f.spelling ++ back)) :
    ∃ m ∈ f.kind.pattern.allMatches template, m.Holds template front.length f := by
  have hmem : (front.length, f) ∈ placedForms f.kind 0 template :=
    mem_placedForms_iff.mpr ⟨rfl, h, front, back, hsplit, (Nat.zero_add _).symm⟩
  obtain ⟨m, hm, hholds⟩ := exists_of_mem_right (forall₂_allMatches f.kind template) hmem
  exact ⟨m, hm, hholds⟩

theorem text_of_holds {f : Form} {front back : Text} {m : Match}
    (hsplit : template = front ++ (f.spelling ++ back)) (h : m.Holds template front.length f) :
    m.span.text template = f.spelling := by
  rw [h.span, hsplit, Span.text]
  simp

/-- The matches are spelled and captured like the forms, in the same order. -/
theorem forall₂_forms (kind : VariableKind) (template : Text) :
    List.Forall₂ (fun m f => m.span.text template = f.spelling ∧ m.captures template = f.captures)
      (kind.pattern.allMatches template) ((placedForms kind 0 template).map (·.2)) := by
  have hplaced := (List.forall₂_and_left _ _).mpr
    ⟨fun _ hmem => hmem, (forall₂_allMatches kind template).flip⟩
  refine List.forall₂_map_right_iff.mpr (hplaced.imp fun (place, f) m h => ?_).flip
  obtain ⟨hmem, hholds⟩ := h
  obtain ⟨-, -, front, back, hsplit, rfl⟩ := mem_placedForms_iff.mp hmem
  rw [Nat.zero_add] at hholds
  exact ⟨text_of_holds hsplit hholds, hholds.captures⟩

theorem exists_form_of_span {kind : VariableKind} {m : Match} {front text back : Text}
    (h : m ∈ kind.pattern.allMatches template) (hsplit : template = front ++ (text ++ back))
    (hspan : m.span = ⟨front.length, front.length + text.length⟩) :
    ∃ f : Form, f.kind = kind ∧ f.WellFormed ∧ f.spelling = text ∧
      m.captures template = f.captures := by
  obtain ⟨f, front', back', hkind, hf, hsplit', hholds⟩ := exists_form_of_mem h
  obtain ⟨hstart, hstop⟩ := Span.mk.inj (hholds.span.symm.trans hspan)
  obtain ⟨rfl, hrest⟩ := List.append_inj (hsplit'.symm.trans hsplit) hstart
  exact ⟨f, hkind, hf, (List.append_inj hrest (by omega)).1, hholds.captures⟩

theorem tokensOf_eq (kind : VariableKind) (template : Text) : tokensOf template kind =
    ((placedForms kind 0 template).map (·.2)).mapM
      fun f => do return ⟨f.spelling, ← f.resolve f.spelling⟩ := by
  have hbodies : ((groups template).filterMap fun body => (Form.readAs? body kind).map (body, ·)) =
      ((placedForms kind 0 template).map (·.2)).map fun f => (f.body, f) := by
    rw [map_snd_placedForms, List.map_filterMap]
    refine List.filterMap_congr fun body _ => ?_
    cases hform : Form.readAs? body kind with
    | none => rfl
    | some f => rw [Option.map_some, Option.map_some, (Form.readAs?_eq_some_iff.mp hform).2.2]
  rw [tokensOf, hbodies, List.mapM_map]
  rfl

theorem not_inside {f f' : Form} (h : f.WellFormed) (h' : f'.WellFormed)
    (hinside : f.spelling <:+: f'.spelling) : f = f' := by
  obtain ⟨front, back, hsplit⟩ := hinside
  have hsplit : [] ++ (f'.spelling ++ []) = front ++ (f.spelling ++ back) := by
    simpa using hsplit.symm
  cases front with
  | nil => exact (eq_of_same_start h' h hsplit rfl).symm
  | cons c front =>
    -- A form that begins later begins behind the closing brace, where nothing is left.
    have hle := stop_le_of_start_lt h' hsplit (by simp)
    have hlength := congrArg List.length hsplit
    simp [Form.spelling] at hle hlength
    omega

-- ---------------------------------------------------------------------------
-- The whole grammar
-- ---------------------------------------------------------------------------

theorem carved (template : Text) : Carved template where
  isGroup kind m hm := by
    obtain ⟨f, front, back, -, hf, hsplit, hholds⟩ := exists_form_of_mem hm
    exact ⟨front, f.body, back, by rw [hsplit, List.append_assoc]; rfl, Form.braceFree_body hf,
      hholds.span⟩
  asAlone kind front body back captured hsplit hfree := by
    rw [List.append_assoc] at hsplit
    -- Either way the match holds a form that is spelled like the group, and a form is matched
    -- wherever it stands.
    constructor
    · rintro ⟨m, hm, hspan, rfl⟩
      obtain ⟨f, rfl, hf, hspelling, hcaptures⟩ := exists_form_of_span hm hsplit hspan
      have halone : enclose body = [] ++ (f.spelling ++ []) := by simp [hspelling]
      obtain ⟨m', hm', hholds⟩ := exists_match_of_form hf halone
      exact ⟨m', hm', by rw [IsGroup, hholds.span, hspelling],
        hholds.captures.trans hcaptures.symm⟩
    · rintro ⟨m, hm, hspan, rfl⟩
      have halone : enclose body = [] ++ (enclose body ++ []) := by simp
      obtain ⟨f, rfl, hf, hspelling, hcaptures⟩ := exists_form_of_span hm halone hspan
      obtain ⟨m', hm', hholds⟩ := exists_match_of_form hf (hspelling ▸ hsplit)
      exact ⟨m', hm', by rw [IsGroup, hholds.span, hspelling],
        hholds.captures.trans hcaptures.symm⟩
  oneKind kind kind' m hm m' hm' hspan := by
    obtain ⟨f, front, back, rfl, hf, hsplit, hholds⟩ := exists_form_of_mem hm
    obtain ⟨f', front', back', rfl, hf', hsplit', hholds'⟩ := exists_form_of_mem hm'
    have hstart := (Span.mk.inj (hholds.span.symm.trans (hspan.trans hholds'.span))).1
    rw [eq_of_same_start hf hf' (hsplit.symm.trans hsplit') hstart]
  complete kind m hm := by
    obtain ⟨f, front, back, rfl, -, hsplit, hholds⟩ := exists_form_of_mem hm
    have hlength := congrArg List.length hholds.captures
    rw [← Form.map_lookup_groups] at hlength
    simpa [Match.captures] using hlength
  inOrder kind := by
    refine pairwise_of_forall₂ (forall₂_allMatches kind template)
      (pairwise_placedForms kind 0 template) fun m m' placed placed' hm hm' hle => ?_
    rw [hm.span, hm'.span]
    exact hle
  extracted kind := by
    refine ⟨(placedForms kind 0 template).map (·.2), forall₂_forms kind template, fun f hf => ?_,
      tokensOf_eq kind template⟩
    obtain ⟨⟨place, f⟩, hmem, rfl⟩ := List.mem_map.mp hf
    obtain ⟨hkind, hf, -⟩ := mem_placedForms_iff.mp hmem
    exact ⟨hkind, hf⟩
  apart kind kind' m hm m' hm' := by
    obtain ⟨f, front, back, -, hf, hsplit, hholds⟩ := exists_form_of_mem hm
    obtain ⟨f', front', back', -, hf', hsplit', hholds'⟩ := exists_form_of_mem hm'
    have hboth := hsplit.symm.trans hsplit'
    rw [hholds.span, hholds'.span]
    rcases Nat.lt_trichotomy front.length front'.length with hlt | heq | hlt
    · exact .inr (.inl (stop_le_of_start_lt hf hboth hlt))
    · rw [heq, eq_of_same_start hf hf' hboth heq]
      exact .inl rfl
    · exact .inr (.inr (stop_le_of_start_lt hf' hboth.symm hlt))
  notInside kind kind' m hm m' hm' hinside := by
    obtain ⟨f, front, back, -, hf, hsplit, hholds⟩ := exists_form_of_mem hm
    obtain ⟨f', front', back', -, hf', hsplit', hholds'⟩ := exists_form_of_mem hm'
    rw [text_of_holds hsplit hholds, text_of_holds hsplit' hholds'] at hinside ⊢
    rw [not_inside hf hf' hinside]
  everywhere kind m hm front back hsplit := by
    obtain ⟨f, front', back', rfl, hf, hsplit', hholds⟩ := exists_form_of_mem hm
    rw [text_of_holds hsplit' hholds, List.append_assoc] at hsplit
    obtain ⟨m', hm', hholds'⟩ := exists_match_of_form hf hsplit
    exact ⟨m', hm', by rw [hholds'.span, text_of_holds hsplit' hholds],
      hholds'.captures.trans hholds.captures.symm⟩

/-- The patterns that the texts of the kinds read as carve every template. -/
theorem carved_by_patterns :
    (∀ kind : VariableKind, Pattern.read false kind.patternText = .ok kind.pattern) ∧
      ∀ template : Text, Carved template :=
  ⟨VariableKind.read_patternText, carved⟩

end Template

end Relabel
