import Relabel.Naming.Value
import Relabel.Proofs.Checks
import Relabel.Template.Extraction

/-!
# The tokens of a template

Where an extraction succeeds, its tokens are the brace groups that read as a variable, one for each
kind that they read as. Numbers that a token holds have passed the checks of the extraction.
-/

namespace Relabel

namespace Template

variable {template : Text} {tokens : Tokens} {token : Token}

theorem mem_tokensOf (h : tokensOf template kind = .ok tokens) :
    token ∈ tokens ↔ ∃ body ∈ groups template, ∃ form, Form.readAs? body kind = some form ∧
      token.text = enclose body ∧ form.resolve (enclose body) = .ok token.wanted := by
  rw [mem_iff_of_mapM_eq_ok h]
  simp only [List.mem_filterMap, Option.map_eq_some_iff]
  constructor
  · rintro ⟨_, ⟨body, hbody, form, hform, rfl⟩, htoken⟩
    obtain ⟨wanted, hwanted, hpure⟩ := bind_eq_ok.mp htoken
    obtain rfl := Except.ok.inj hpure
    exact ⟨body, hbody, form, hform, rfl, hwanted⟩
  · rintro ⟨body, hbody, form, hform, htext, hwanted⟩
    refine ⟨(body, form), ⟨body, hbody, form, hform, rfl⟩, bind_eq_ok.mpr ⟨_, hwanted, ?_⟩⟩
    rw [← htext]
    rfl

/-- The tokens of a template are its brace groups, read as every kind that they can be read as. -/
theorem mem_tokens (h : Template.tokens template = .ok tokens) :
    token ∈ tokens ↔ ∃ body ∈ groups template, ∃ kind form, Form.readAs? body kind = some form ∧
      token.text = enclose body ∧ form.resolve (enclose body) = .ok token.wanted := by
  obtain ⟨byKind, hbyKind, hpure⟩ := bind_eq_ok.mp h
  obtain rfl := Except.ok.inj hpure
  simp only [List.mem_flatten, mem_iff_of_mapM_eq_ok hbyKind]
  constructor
  · rintro ⟨ofKind, ⟨kind, -, hkind⟩, htoken⟩
    obtain ⟨body, hbody, form, hform, hresolve⟩ := (mem_tokensOf hkind).mp htoken
    exact ⟨body, hbody, kind, form, hform, hresolve⟩
  · rintro ⟨body, hbody, kind, form, hform, hresolve⟩
    obtain ⟨ofKind, -, hkind⟩ := exists_mem_of_mapM_eq_ok hbyKind (VariableKind.mem_all kind)
    exact ⟨ofKind, ⟨kind, VariableKind.mem_all kind, hkind⟩,
      (mem_tokensOf hkind).mpr ⟨body, hbody, form, hform, hresolve⟩⟩

theorem exists_token (h : Template.tokens template = .ok tokens) (hbody : body ∈ groups template)
    (hform : Form.readAs? body kind = some form) : ∃ token ∈ tokens, token.text = enclose body := by
  obtain ⟨byKind, hbyKind, hpure⟩ := bind_eq_ok.mp h
  obtain rfl := Except.ok.inj hpure
  obtain ⟨ofKind, hmem, hkind⟩ := exists_mem_of_mapM_eq_ok hbyKind (VariableKind.mem_all kind)
  have hitem : (body, form) ∈
      (groups template).filterMap fun body => (Form.readAs? body kind).map (body, ·) :=
    List.mem_filterMap.mpr ⟨body, hbody, by rw [hform]; rfl⟩
  obtain ⟨token, htoken, hresolve⟩ := exists_mem_of_mapM_eq_ok hkind hitem
  obtain ⟨wanted, -, hpure⟩ := bind_eq_ok.mp hresolve
  obtain rfl := Except.ok.inj hpure
  exact ⟨_, List.mem_flatten.mpr ⟨ofKind, hmem, htoken⟩, rfl⟩

end Template

-- ---------------------------------------------------------------------------
-- Indexes
-- ---------------------------------------------------------------------------

theorem Form.step_pos {index : Index} (h : indexOf token f = .ok index) : 0 < index.step := by
  obtain ⟨step, -, h⟩ := bind_eq_ok.mp h
  split at h
  case isTrue => cases h
  case isFalse hstep =>
    obtain ⟨width, -, h⟩ := bind_eq_ok.mp h
    split at h
    case isTrue => cases h
    case isFalse =>
      obtain ⟨group, -, h⟩ := bind_eq_ok.mp h
      obtain ⟨start, -, h⟩ := bind_eq_ok.mp h
      obtain ⟨skip, -, h⟩ := bind_eq_ok.mp h
      cases h
      show 0 < (step : Int)
      omega

theorem Form.resolve_eq_index {index : Index} (h : Form.resolve token form = .ok (.index index)) :
    ∃ f, form = .index f ∧ indexOf token f = .ok index := by
  cases form with
  | index f =>
    obtain ⟨made, hmade, hpure⟩ := bind_eq_ok.mp h
    cases hpure
    exact ⟨f, rfl, hmade⟩
  | parent levels t =>
    obtain ⟨_, -, hpure⟩ := bind_eq_ok.mp h
    cases hpure
  | capture group format =>
    obtain ⟨_, -, hpure⟩ := bind_eq_ok.mp h
    cases hpure
  | column digits t =>
    obtain ⟨_, -, hpure⟩ := bind_eq_ok.mp h
    cases hpure
  | _ => cases h

namespace Tokens

theorem step_pos (h : Template.tokens template = .ok tokens) (htoken : token ∈ tokens)
    (hindex : token.wanted = .index index) : 0 < index.step := by
  obtain ⟨body, -, kind, form, -, -, hresolve⟩ := (Template.mem_tokens h).mp htoken
  obtain ⟨f, -, hf⟩ := Form.resolve_eq_index (hindex ▸ hresolve)
  exact Form.step_pos hf

theorem map_wanted_ofKind_index (tokens : Tokens) :
    (tokens.ofKind .index).map (·.wanted) = tokens.indexes.map .index := by
  induction tokens with
  | nil => rfl
  | cons token tokens ih =>
    have hcons : Tokens.indexes (token :: tokens) =
        token.wanted.index?.toList ++ Tokens.indexes tokens := by
      rw [indexes, List.filterMap_cons]
      cases token.wanted.index? <;> rfl
    rw [hcons, List.map_append, ← ih, ofKind, List.filter_cons]
    cases hwanted : token.wanted <;> simp [hwanted, Variable.kind, Variable.index?, ofKind]

theorem indexes_eq_nil {tokens : Tokens} (h : tokens.hasIndex = false) : tokens.indexes = [] := by
  have hnone : tokens.ofKind .index = [] :=
    List.filter_eq_nil_iff.mpr fun token htoken => by
      simpa using List.any_eq_false.mp h token htoken
  have hmap := map_wanted_ofKind_index tokens
  rw [hnone] at hmap
  exact List.map_eq_nil_iff.mp hmap.symm

end Tokens

end Relabel
