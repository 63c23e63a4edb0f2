import Relabel.Proofs.Batch.Sorting
import Relabel.Proofs.Naming.NameOnly
import Relabel.Proofs.Naming.Values
import Relabel.Proofs.Text.Occurrence

/-!
# Names that no pattern matches

A name that the find patterns do not match goes through every link all the same: its extension is
split off, values are put in for the variables of the template, the extension comes back, and the
name is cleaned and trimmed. The values are looked for in the whole name, so a name is left alone
as long as it does not spell a variable itself.
-/

namespace Relabel

open Text

theorem Pattern.replace_of_not_isMatch {p : Pattern} (h : p.isMatch text = false) (limit : Int)
    (replacement : Text) : p.replace limit replacement text = text := by
  have hnone : p.find? text 0 = none := by simpa [isMatch] using h
  have hmatches : p.allMatches text = [] := by simp [allMatches, matchesFrom, next?, hnone]
  have hselected : selectByLimit limit ([] : List Match) = [] := by
    unfold selectByLimit
    split
    · rfl
    · split <;> simp
  rw [replace, hmatches, hselected, spliceFrom, List.drop_zero]

theorem putValues_of_not_infix {values : List (Text × Text)}
    (h : ∀ v ∈ values, ¬v.1 <:+: working) : putValues values working = working := by
  induction values with
  | nil => rfl
  | cons v values ih =>
    obtain ⟨hv, hvalues⟩ := List.forall_mem_cons.mp h
    rw [putValues, List.foldl_cons, replaceAll_of_not_infix hv]
    exact ih hvalues

namespace Batch

open Lookups

variable {setting : Setting} {source : MetadataSource} {options : RunOptions}
variable {step : Step} {entries : List Entry}

theorem written_of_unmatched {made : Renaming} (h : made.MadeBy setting step e name)
    (hmatch : step.search.isMatch made.subject.matched = false)
    (hspelled : ∀ token ∈ step.tokens, ¬token.text <:+: made.subject.matched) :
    made.written = name := by
  obtain ⟨facts, counters, hresolution⟩ := h.resolution
  have htext : made.resolution.text = made.subject.matched := by
    rw [hresolution]
    simp only [resolution, Pattern.replace_of_not_isMatch hmatch]
    refine putValues_of_not_infix fun v hv => ?_
    obtain ⟨token, htoken, hkey⟩ := Tokens.exists_token_of_mem_values hv
    exact hkey ▸ hspelled token htoken
  rw [Renaming.written, htext, h.matched_append]

def matchName (options : RunOptions) (e : Entry) : Text :=
  (splitName options.keepExtension e.isDirectory e.source).1

/-- Whether the find pattern of a link matches a name. -/
def findsIn (options : RunOptions) (name : Text) (link : Link) : Bool :=
  match Pattern.compile options.mode link.find with
  | .ok search => search.isMatch name
  | .error _ => false

def spellsVariable (name : Text) (link : Link) : Bool :=
  match Template.tokens link.replacement with
  | .ok tokens => tokens.any fun token => hasSubtext token.text name
  | .error _ => false

/-- The name has the form in which names are recorded, and none of the find patterns matches it. -/
def Unmatched (options : RunOptions) (e : Entry) : Prop :=
  e.source.trim = e.source ∧ Path.clean e.source = e.source ∧
    ∀ link ∈ options.chain, findsIn options (matchName options e) link = false

instance : DecidablePred (Unmatched options) := fun e => by
  unfold Unmatched
  infer_instance

theorem name_of_unmatched {i p : Nat}
    (h : (record setting source options entries).Answers log r log')
    (he : r.entries[p]? = some e) (hunmatched : Unmatched options e)
    (hspelled : ∀ link ∈ options.chain, spellsVariable (matchName options e) link = false)
    (hi : i ≤ options.chain.length) : (r.namesInto i)[p]? = some e.source := by
  obtain ⟨htrim, hclean, hnone⟩ := hunmatched
  have hnames : ∃ name, (r.namesInto i)[p]? = some name ∧ name = e.source := by
    -- It is the source itself that every link hands on.
    refine names_induction h he rfl ?_ hi
    rintro i link stage made _ hlink hstage hran hmade hby rfl
    have hmatched : made.subject.matched = matchName options e := by
      rw [hby.subject, matchName, ← hran.keepExtension_eq]
      rfl
    have hfind := hnone link (List.mem_of_getElem? hlink)
    have hvariables := hspelled link (List.mem_of_getElem? hlink)
    simp only [findsIn, hran.compile_eq, ← hmatched] at hfind
    simp only [spellsVariable, hran.tokens_eq, ← hmatched] at hvariables
    have hwritten := written_of_unmatched hby hfind fun token htoken hinfix =>
      List.any_eq_false.mp hvariables token htoken (hasSubtext_iff.mpr hinfix)
    rw [Renaming.target, hwritten, hclean, htrim]
  obtain ⟨_, hname, rfl⟩ := hnames
  exact hname

/-- A run leaves alone every entry that no pattern matches and whose name spells no variable. -/
theorem target_of_unmatched (hrun : (run setting source options entries).Answers log out log')
    (hchain : options.chain ≠ []) :
    (∀ e ∈ entries, Unmatched options e →
      (∀ link ∈ options.chain, spellsVariable (matchName options e) link = false) →
      ∃ p : Nat, out[p]? = some (e.renamed p e.source)) ∧
    ∀ e ∈ out, Unmatched options e →
      (∀ link ∈ options.chain, spellsVariable (matchName options e) link = false) →
      e.target = e.source := by
  obtain ⟨r, hrecord, rfl⟩ := answers_map.mp hrun
  constructor
  · intro e he hunmatched hspelled
    obtain ⟨p, hp⟩ := List.mem_iff_getElem?.mp ((record_perm hrecord).mem_iff.mpr he)
    have hname := name_of_unmatched hrecord hp hunmatched hspelled (Nat.le_refl _)
    exact ⟨p, (outcome_getElem?_iff hrecord hchain).mpr ⟨e, e.source, hp, hname, rfl⟩⟩
  · intro o ho hunmatched hspelled
    obtain ⟨p, hp⟩ := List.mem_iff_getElem?.mp ho
    obtain ⟨e, name, he, hname, rfl⟩ := (outcome_getElem?_iff hrecord hchain).mp hp
    -- The new name has no part in what is asked of the source.
    have hunmatched : Unmatched options e := hunmatched
    have hsource := name_of_unmatched hrecord he hunmatched hspelled (Nat.le_refl _)
    exact Option.some.inj (hname.symm.trans hsource)

def numberForX : RunOptions where
  chain := [⟨"x".toList, "{%d}".toList⟩]
  mode := ⟨false, false⟩
  limit := 0
  keepExtension := true
  sort := none
  reverse := false

def braces : { e : Entry // Unmatched numberForX e ∧
    ∀ link ∈ numberForX.chain, spellsVariable (matchName numberForX e) link = false } where
  val := .pending "d".toList "a{b}.txt".toList false
  property := by decide +kernel

theorem run_numberForX :
    (run .bare .silent numberForX [braces.val, .pending "d".toList "x.txt".toList false]).Answers []
      [⟨"a{b}.txt".toList, "a{b}.txt".toList, "d".toList, "d/a{b}.txt".toList, false, 0, .ok⟩,
        ⟨"x.txt".toList, "2.txt".toList, "d".toList, "d/2.txt".toList, false, 1, .ok⟩] [] := by
  rw [run_of_pairwise rfl (by decide)]
  unfold Answers
  decide +kernel

theorem target_of_unmatched_braces :
    ∃ p : Nat,
      ([⟨"a{b}.txt".toList, "a{b}.txt".toList, "d".toList, "d/a{b}.txt".toList, false, 0, .ok⟩,
        ⟨"x.txt".toList, "2.txt".toList, "d".toList, "d/2.txt".toList, false, 1, .ok⟩] :
          List Entry)[p]? = some (braces.val.renamed p braces.val.source) :=
  -- The braces stay, and the number that the other file gets is the second one.
  (target_of_unmatched run_numberForX (by decide)).1 _ List.mem_cons_self braces.property.1
    braces.property.2

def numberForZ : RunOptions :=
  { numberForX with chain := [⟨"z".toList, "{%d}".toList⟩], keepExtension := false }

def spelled : { e : Entry // Unmatched numberForZ e } where
  val := .pending "dir".toList "a{%d}".toList false
  property := by decide +kernel

theorem run_numberForZ :
    (run .bare .silent numberForZ [spelled.val]).Answers []
      [⟨"a{%d}".toList, "a1".toList, "dir".toList, "dir/a1".toList, false, 0, .ok⟩] [] := by
  rw [run_of_pairwise rfl (by decide)]
  unfold Answers
  decide +kernel

/-- The number goes into a name that spells it, though the pattern does not match. -/
theorem not_all_unmatched_left_alone :
    ¬∀ (setting : Setting) (source : MetadataSource) (options : RunOptions)
      (entries out : List Entry) (log log' : List Lookup), options.chain ≠ [] →
      (run setting source options entries).Answers log out log' →
      ∀ e ∈ out, Unmatched options e → e.target = e.source := by
  intro h
  have htarget := h .bare .silent numberForZ _ _ [] [] (by decide) run_numberForZ _
    List.mem_cons_self spelled.property
  exact absurd htarget (by decide)

end Batch

end Relabel
