import Mathlib.Data.List.Chain
import Relabel.Pattern.Replacement
import Relabel.Proofs.Pattern.Expansion
import Relabel.Proofs.Template.Protection

/-!
# Reading a template

A template whose variables are not touched by a reference has a plain meaning: the text between the
variables is expanded, piece by piece, and the variables stand for themselves. Expanding the
protected template comes to just that (`expand_protect`). Where besides all braces belong to
variables or to references, an expansion adds none to those of the name.
-/

namespace Relabel

open Expansion

namespace Template

open Text

namespace Segment

def read (onText onToken : Text → Text) : Segment → Text
  | text content => onText content
  | token body => onToken (enclose body)

def mapText (f : Text → Text) : Segment → Segment
  | text content => text (f content)
  | token body => token body

/-- A text in front of a variable ends with dollar signs in pairs, so none of them is left to begin
a reference. -/
def Paired : Segment → Segment → Prop
  | text content, token _ => trailingDollars content % 2 = 0
  | _, _ => True

instance (a b : Segment) : Decidable (Paired a b) := by
  unfold Paired
  split <;> infer_instance

/-- A text in front of a variable leaves nothing to be waited for: its last dollar sign is not one
that begins a reference, and no name between braces is left open. -/
def Settled : Segment → Segment → Prop
  | text content, token _ => waiting content = .nothing
  | _, _ => True

instance (a b : Segment) : Decidable (Settled a b) := by
  unfold Settled
  split <;> infer_instance

def isText : Segment → Bool
  | text _ => true
  | token _ => false

end Segment

open Segment

def read (template : Text) (onText onToken : Text → Text) : Text :=
  (segments template).flatMap (Segment.read onText onToken)

/-- No variable stands right behind a dollar sign that begins a reference, or inside of the braces of
a reference. -/
def Untouched (template : Text) : Prop := (segments template).IsChain Settled

instance (template : Text) : Decidable (Untouched template) := by
  unfold Untouched
  infer_instance

/-- Every brace belongs to a variable or to a reference, and no reference touches a variable. -/
structure Separated (template : Text) : Prop where
  braces : ∀ content, .text content ∈ segments template → BracesRefer content
  paired : (segments template).IsChain Paired

theorem Separated.untouched (h : Separated template) : Untouched template := by
  refine List.IsChain.imp_of_mem_imp (fun a b ha _ hpaired => ?_) h.paired
  cases a with
  | token body => trivial
  | text content =>
    cases b with
    | text other => trivial
    | token body => exact waiting_of_bracesRefer (h.braces content ha) hpaired

theorem isChain_prepend {segments : List Segment}
    (h : segments.IsChain fun a b => a.isText → ¬b.isText) (c : Char) :
    (prepend c segments).IsChain fun a b => a.isText → ¬b.isText := by
  unfold prepend
  split
  case h_1 content rest =>
    rw [List.isChain_cons] at h ⊢
    exact ⟨fun b hb _ => h.1 b hb rfl, h.2⟩
  case h_2 hnot =>
    rw [List.isChain_cons]
    refine ⟨fun b hb _ => ?_, h⟩
    cases b with
    | text content =>
      obtain ⟨rest, rfl⟩ := List.head?_eq_some_iff.mp hb
      exact absurd rfl (hnot content rest)
    | token body => simp [isText]

theorem isChain_segments (template : Text) :
    (segments template).IsChain fun a b => a.isText → ¬b.isText := by
  induction template using segments_induction with
  | nil => exact List.isChain_nil
  | token body rest hfree hvariable ih =>
    rw [segments_enclose hfree hvariable, List.isChain_cons]
    exact ⟨fun b _ h => absurd h (by simp [isText]), ih⟩
  | char c rest h ih =>
    rw [segments_cons h]
    exact isChain_prepend ih c

-- ---------------------------------------------------------------------------
-- Expansion
-- ---------------------------------------------------------------------------

theorem pieces_doubleDollars_append (body rest : Text) :
    pieces (doubleDollars body ++ rest) = body.map .char ++ pieces rest := by
  induction body with
  | nil => rfl
  | cons c body ih =>
    rw [← List.singleton_append, doubleDollars_append, List.append_assoc]
    by_cases hc : c = '$'
    · subst hc
      exact (pieces_dollars _).trans (congrArg _ ih)
    · rw [doubleDollars_of_not_mem (by simpa using Ne.symm hc)]
      exact (pieces_char hc _).trans (congrArg _ ih)

theorem pieces_enclose_append (body rest : Text) :
    pieces (enclose (doubleDollars body) ++ rest) = (enclose body).map .char ++ pieces rest := by
  rw [enclose_append, pieces_char (by decide), pieces_doubleDollars_append,
    pieces_char (by decide), enclose]
  simp

section Expand

variable (m : Match) (names : List (Text × Nat)) (whole : Text)

theorem flatMap_expand_char (chars : Text) :
    (chars.map Piece.char).flatMap (Piece.expand names whole m) = chars := by
  rw [List.flatMap_map]
  exact List.flatMap_singleton' chars

theorem mem_groupText {m : Match} {whole : Text} {number : Nat} (h : c ∈ m.groupText whole number) :
    c ∈ whole := by
  unfold Match.groupText at h
  split at h
  · exact List.mem_of_mem_drop (List.mem_of_mem_take h)
  · cases h

theorem braceFree_expand {content : Text} (hbraces : BracesRefer content)
    (hwhole : BraceFree whole) : BraceFree (m.expand names whole content) := by
  have hmem {c : Char} (hpiece : .char c ∉ pieces content) (hc : c ∉ whole) :
      c ∉ m.expand names whole content := by
    intro hexpand
    obtain ⟨piece, hin, hchar⟩ := List.mem_flatMap.mp hexpand
    cases piece with
    | char d =>
      obtain rfl : c = d := by simpa [Piece.expand] using hchar
      exact hpiece hin
    | reference name =>
      simp only [Piece.expand] at hchar
      split at hchar
      · exact hc (mem_groupText hchar)
      · cases hchar
  exact ⟨hmem hbraces.1 hwhole.1, hmem hbraces.2 hwhole.2⟩

/-- Expanding goes through the texts one by one and undoes the doubling. -/
theorem expand_spell_doubled {segments : List Segment} (hsettled : segments.IsChain Settled)
    (halternate : segments.IsChain fun a b => a.isText → ¬b.isText) :
    m.expand names whole (spell (segments.map (mapBody doubleDollars))) =
      spell (segments.map (mapText (m.expand names whole))) := by
  induction segments with
  | nil => rfl
  | cons first rest ih =>
    rw [List.isChain_cons] at hsettled halternate
    have hrest := ih hsettled.2 halternate.2
    rw [List.map_cons, List.map_cons, spell_cons, spell_cons, ← hrest]
    cases first with
    | token body =>
      simp only [mapBody, mapText, spelled, Match.expand]
      rw [pieces_enclose_append, List.flatMap_append, flatMap_expand_char]
    | text content =>
      simp only [mapBody, mapText, spelled]
      cases rest with
      | nil =>
        rw [hrest]
        simp [spell]
      | cons next rest =>
        cases next with
        | text other => exact absurd rfl (halternate.1 (.text other) rfl rfl)
        | token body =>
          -- The variable begins with a brace, where the text may be cut off.
          have hend := hsettled.1 (.token body) rfl
          simp only [List.map_cons, spell_cons, mapBody, spelled, enclose_append]
          rw [Match.expand, pieces_append_open hend, List.flatMap_append]
          rfl

theorem expand_protect {found : Tokens} (h : tokens template = .ok found)
    (huntouched : Untouched template) :
    m.expand names whole (protect template found) =
      spell ((segments template).map (mapText (m.expand names whole))) := by
  rw [protect_eq h]
  exact expand_spell_doubled m names whole huntouched (isChain_segments template)

end Expand

theorem token_mem_segments_iff {found : Tokens} (h : tokens template = .ok found) :
    .token body ∈ segments template ↔ ∃ token ∈ found, token.text = enclose body := by
  constructor
  · intro hbody
    obtain ⟨hgroups, -, hvariable⟩ := mem_groups_of_token_mem hbody
    obtain ⟨kind, form, hform⟩ := isVariable_iff.mp hvariable
    exact exists_token h hgroups hform
  · rintro ⟨token, htoken, htext⟩
    obtain ⟨b, hgroups, kind, form, hform, heq, -⟩ := (mem_tokens h).mp htoken
    obtain rfl := enclose_inj (heq.symm.trans htext)
    exact token_mem_of_mem_groups hgroups (isVariable_iff.mpr ⟨kind, form, hform⟩)

/-- Where no reference touches a variable, the expansion of the protected template is the template
with every text between its variables expanded by itself and every variable as it stands, whatever
the match has captured. A replacement puts just that in place of each match that its limit selects,
be they counted from the left or from the right. -/
theorem tokens_survive_expansion {found : Tokens} (h : tokens template = .ok found)
    (huntouched : Untouched template) :
    -- The template is cut into its variables and the texts between them.
    (spell (segments template) = template ∧
      (∀ body, .token body ∈ segments template ↔ ∃ token ∈ found, token.text = enclose body) ∧
      (segments template).IsChain fun a b => a.isText → ¬b.isText) ∧
    (∀ (m : Match) (names : List (Text × Nat)) (whole : Text),
      m.expand names whole (protect template found) =
        read template (m.expand names whole) id) ∧
    ∀ (p : Pattern) (limit : Int) (whole : Text),
      p.replace limit (protect template found) whole =
        spliceFrom (fun m => read template (m.expand p.names whole) id) whole 0
          (selectByLimit limit (p.allMatches whole)) := by
  have hexpand (m : Match) (names : List (Text × Nat)) (whole : Text) :
      m.expand names whole (protect template found) = read template (m.expand names whole) id := by
    rw [expand_protect m names whole h huntouched, spell, read, List.flatMap_map]
    refine List.flatMap_congr fun s _ => ?_
    cases s <;> rfl
  refine ⟨⟨spell_segments template, fun body => token_mem_segments_iff h,
    isChain_segments template⟩, hexpand, fun p limit whole => ?_⟩
  simp only [Pattern.replace, hexpand]

/-- References, an escaped dollar sign in front of a variable, a group that is none, and a name that
is left open behind the last variable. -/
def mixedReferences : Text := "$1$${$1.up}{no}-{f}$\x7bx".toList

def mixedReferencesTokens : Tokens :=
  [⟨"{f}".toList, .stem none⟩, ⟨"{$1.up}".toList, .capture (some 1) (.text .upper)⟩]

theorem tokens_survive_expansion_mixedReferences :
    tokens mixedReferences = .ok mixedReferencesTokens ∧ Untouched mixedReferences ∧
      Match.expand ⟨⟨0, 5⟩, [some ⟨0, 5⟩]⟩ [] "${a}$".toList
          (protect mixedReferences mixedReferencesTokens) =
        "${a}$${$1.up}{no}-{f}$\x7bx".toList := by
  have htokens : tokens mixedReferences = .ok mixedReferencesTokens := by decide +kernel
  have huntouched : Untouched mixedReferences := by decide +kernel
  refine ⟨htokens, huntouched, ?_⟩
  rw [(tokens_survive_expansion htokens huntouched).2.1]
  decide +kernel

end Template

end Relabel
