import Relabel.Proofs.Naming.Values
import Relabel.Proofs.Pattern.Literal
import Relabel.Proofs.Template.Protection

/-!
# Finding texts again

A find argument in literal mode and the text of a token are both looked for as they stand. The
values of variables are put in where the patterns of their tokens match, and no part of a value is
taken for a reference.
-/

namespace Relabel

theorem Template.text_ne_nil {tokens : Tokens} {token : Token}
    (h : Template.tokens template = .ok tokens) (htoken : token ∈ tokens) : token.text ≠ [] := by
  obtain ⟨body, -, kind, form, -, htext, -⟩ := (mem_tokens h).mp htoken
  rw [htext]
  exact enclose_ne_nil body

theorem putValues_eq_foldl_verbatim {values : List (Text × Text)} (h : ∀ v ∈ values, v.1 ≠ [])
    (working : Text) : putValues values working = values.foldl
      (fun working v => (Pattern.literal false v.1).replaceVerbatim v.2 working) working := by
  induction values generalizing working with
  | nil => rfl
  | cons v values ih =>
    obtain ⟨hv, hvalues⟩ := List.forall_mem_cons.mp h
    have hstep := (Pattern.findsText_literal hv).verbatim v.2 working
    rw [List.foldl_cons, hstep]
    exact ih hvalues _

/-- Whatever characters they have, a find argument in literal mode and the texts of all tokens are
found just where they stand, from the left and without overlaps. A template without references takes
the place of every occurrence of the argument, and the values go to the places of their tokens. The
patterns are those that the escaped texts read as. -/
theorem texts_found_as_they_stand :
    (∀ find : Text, find ≠ [] → ∃ p, Pattern.compile ⟨false, true⟩ find = .ok p ∧
      p.FindsText find ∧
      (find.length ≤ Pattern.largestWeight → Pattern.read false (Pattern.escape find) = .ok p)) ∧
    ∀ template tokens, Template.tokens template = .ok tokens →
      (∀ token ∈ tokens, (Pattern.literal false token.text).FindsText token.text ∧
        (token.text.length ≤ Pattern.largestWeight →
          Pattern.read false (Pattern.escape token.text) =
            .ok (Pattern.literal false token.text))) ∧
      ∀ valueOf numbers working, putValues (tokens.values valueOf numbers) working =
        (tokens.values valueOf numbers).foldl
          (fun working v => (Pattern.literal false v.1).replaceVerbatim v.2 working) working := by
  constructor
  · intro find hfind
    refine ⟨Pattern.literal false find, ?_, Pattern.findsText_literal hfind,
      Pattern.read_escape false⟩
    simp [Pattern.compile, hfind]
  · intro template tokens htokens
    constructor
    · intro token htoken
      have hne := Template.text_ne_nil htokens htoken
      exact ⟨Pattern.findsText_literal hne, Pattern.read_escape false⟩
    · intro valueOf numbers working
      -- No token is empty, so each of them is found as a text.
      refine putValues_eq_foldl_verbatim ?_ working
      intro v hv
      obtain ⟨token, htoken, htext⟩ := Tokens.exists_token_of_mem_values hv
      rw [htext]
      exact Template.text_ne_nil htokens htoken

theorem texts_found_as_they_stand_dots :
    (∃ p, Pattern.compile ⟨false, true⟩ "a.a".toList = .ok p ∧
      Leftmost "a.a".toList "a.a.a.aba".toList 0 [⟨0, 3⟩, ⟨4, 7⟩] ∧
      p.replace 0 "-".toList "a.a.a.aba".toList = "-.-ba".toList) ∧
    ∃ tokens, Template.tokens "{$1.up}".toList = .ok tokens ∧ ∀ token ∈ tokens,
      (Pattern.literal false token.text).replaceVerbatim "$1".toList "a{$1.up}{$1.up}".toList =
        "a$1$1".toList := by
  -- A text that overlaps itself and has a special character, and a value that looks like a
  -- reference.
  constructor
  · obtain ⟨p, hp, hfinds, hread⟩ :=
      texts_found_as_they_stand.1 "a.a".toList (by decide)
    have hliteral : p = Pattern.literal false "a.a".toList := (Except.ok.inj hp).symm
    refine ⟨p, hp, (hfinds.leftmost _ _).mpr ?_, ?_⟩
    · rw [hliteral]
      decide +kernel
    · rw [hfinds.replaced _ _ (by decide)]
      decide +kernel
  · have htokens : Template.tokens "{$1.up}".toList =
        .ok [⟨"{$1.up}".toList, .capture (some 1) (.text .upper)⟩] := rfl
    refine ⟨_, htokens, ?_⟩
    intro token htoken
    have hfinds := (texts_found_as_they_stand.2 _ _ htokens).1 token htoken
    obtain rfl := List.mem_singleton.mp htoken
    rw [hfinds.1.verbatim]
    decide +kernel

end Relabel
