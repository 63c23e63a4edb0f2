import Mathlib.Data.List.Infix
import Mathlib.Tactic.LinearCombination
import Mathlib.Tactic.Zify
import Relabel.Proofs.Naming.Substitution

/-!
# Values put in all at once

Values are put in one after the other, and each looks for its text in what the ones before it have
left. This comes to the same as filling all places at once just when no value makes, by itself or
with its neighbours, the text of one that is still to come: `putValues_eq_replaceEach_iff`.
-/

namespace Relabel

open Text

-- ---------------------------------------------------------------------------
-- Some places filled
-- ---------------------------------------------------------------------------

namespace Text

def occurrences (piece : Text) : Text → Nat
  | [] => 0
  | c :: cs => occurrences piece cs + if piece.isPrefixOf (c :: cs) then 1 else 0

/-- Of the places where the piece stands `n` have got the value. -/
inductive Filled (piece value : Text) : Nat → Text → Text → Prop
  | nil : Filled piece value 0 [] []
  | keep (c : Char) (h : Filled piece value n text filled) :
      Filled piece value n (c :: text) (c :: filled)
  | fill (hwhole : whole = piece ++ text) (h : Filled piece value n text filled) :
      Filled piece value (n + 1) whole (value ++ filled)

theorem Filled.append {piece value : Text} (h : Filled piece value n text filled) (front : Text) :
    Filled piece value n (front ++ text) (front ++ filled) := by
  induction front with
  | nil => exact h
  | cons c _ ih => exact .keep c ih

theorem Filled.length_eq {piece value : Text} (h : Filled piece value n text filled) :
    filled.length + n * piece.length = text.length + n * value.length := by
  induction h with
  | nil => simp
  | keep c h ih => simp only [List.length_cons]; omega
  | fill hwhole h ih =>
    simp only [hwhole, List.length_append, Nat.add_mul, Nat.one_mul]
    omega

theorem Filled.eq_self {piece : Text} (h : Filled piece piece n text filled) : filled = text := by
  induction h with
  | nil => rfl
  | keep c h ih => rw [ih]
  | fill hwhole h ih => rw [ih, hwhole]

private theorem occurrences_cons (h : ¬piece <+: c :: rest) :
    occurrences piece (c :: rest) = occurrences piece rest := by
  rw [occurrences, if_neg (fun hstands => h (List.isPrefixOf_iff_prefix.mp hstands)), Nat.add_zero]

end Text

namespace Template

variable {b value text filled rest : Text}

private theorem not_enclose_prefix_cons (hc : c ≠ '{') : ¬enclose b <+: c :: rest := by
  rintro ⟨behind, hbehind⟩
  exact hc (List.cons.inj hbehind).1.symm

private theorem occurrences_append_of_not_mem (hfront : '{' ∉ front) (b rest : Text) :
    occurrences (enclose b) (front ++ rest) = occurrences (enclose b) rest := by
  induction front with
  | nil => rfl
  | cons c cs ih =>
    have hc := Ne.symm (List.ne_of_not_mem_cons hfront)
    rw [List.cons_append, occurrences_cons (not_enclose_prefix_cons hc),
      ih (List.not_mem_of_not_mem_cons hfront)]

private theorem open_not_mem_append (hb : BraceFree b) : '{' ∉ b ++ ['}'] := by simpa using hb.1

private theorem occurrences_enclose_append (hb : BraceFree b) (rest : Text) :
    occurrences (enclose b) (enclose b ++ rest) = occurrences (enclose b) rest + 1 := by
  have hstands : (enclose b).isPrefixOf (enclose b ++ rest) = true :=
    List.isPrefixOf_iff_prefix.mpr (List.prefix_append _ _)
  rw [← occurrences_append_of_not_mem (open_not_mem_append hb) b rest]
  exact congrArg _ (if_pos hstands)

private theorem eq_of_prefix_enclose (hb : BraceFree b) (hb' : BraceFree b')
    (h : enclose b <+: enclose b' ++ rest) : b = b' := by
  rw [enclose_append] at h
  have hgroup := groupBody?_of_prefix hb h
  rw [groupBody?_append hb'] at hgroup
  exact (Option.some.inj hgroup).symm

private theorem occurrences_enclose_append_of_ne (hb : BraceFree b) (hb' : BraceFree b') (hne : b ≠ b')
    (rest : Text) :
    occurrences (enclose b') (enclose b ++ rest) = occurrences (enclose b') rest := by
  have hstands : ¬enclose b' <+: enclose b ++ rest := fun hstands =>
    hne (eq_of_prefix_enclose hb' hb hstands).symm
  rw [← occurrences_append_of_not_mem (open_not_mem_append hb) b' rest]
  exact occurrences_cons hstands

theorem filled_replaceAll (hb : BraceFree b) (value text : Text) :
    Filled (enclose b) value (occurrences (enclose b) text) text
      (replaceAll (enclose b) value text) := by
  -- An occurrence takes several characters at once, so the induction is on the length.
  induction hlength : text.length using Nat.strongRecOn generalizing text with
  | _ length ih =>
    cases text with
    | nil => exact replaceAll_nil (enclose_ne_nil b) value ▸ .nil
    | cons c cs =>
      by_cases hstands : enclose b <+: c :: cs
      · obtain ⟨rest, heq⟩ := hstands
        have hlt : rest.length < length := by
          rw [← hlength, ← heq, List.length_append, enclose, List.length_append, List.length_cons]
          omega
        rw [← heq, occurrences_enclose_append hb, replaceAll_append_self (enclose_ne_nil b)]
        exact .fill rfl (ih rest.length hlt rest rfl)
      · rw [occurrences_cons hstands, replaceAll_cons (enclose_ne_nil b) hstands]
        exact .keep c (ih cs.length (by simp [← hlength]) cs rfl)

private theorem exists_of_filled_append (hfront : '{' ∉ front)
    (h : Filled (enclose b) value n (front ++ rest) filled) :
    ∃ filled', filled = front ++ filled' ∧ Filled (enclose b) value n rest filled' := by
  induction front generalizing filled with
  | nil => exact ⟨filled, rfl, h⟩
  | cons c cs ih =>
    cases h with
    | keep c h =>
      obtain ⟨filled', rfl, h'⟩ := ih (List.not_mem_of_not_mem_cons hfront) h
      exact ⟨filled', rfl, h'⟩
    | fill hwhole h =>
      exact absurd (List.cons.inj hwhole).1.symm (List.ne_of_not_mem_cons hfront)

private theorem exists_of_filled_cons (hb : BraceFree b) (hstands : enclose b <+: c :: text)
    (h : Filled (enclose b) value n text filled) : ∃ rest filled', c :: text = enclose b ++ rest ∧
      c :: filled = enclose b ++ filled' ∧ Filled (enclose b) value n rest filled' := by
  obtain ⟨rest, heq⟩ := hstands
  obtain ⟨rfl, rfl⟩ := List.cons.inj heq
  obtain ⟨filled', rfl, h'⟩ := exists_of_filled_append (open_not_mem_append hb) h
  exact ⟨rest, filled', rfl, rfl, h'⟩

theorem le_occurrences (hb : BraceFree b) (h : Filled (enclose b) value n text filled) :
    n ≤ occurrences (enclose b) text := by
  induction h with
  | nil => exact Nat.le_refl 0
  | keep c h ih => exact Nat.le_add_right_of_le ih
  | fill hwhole h ih => rw [hwhole, occurrences_enclose_append hb]; omega

theorem eq_replaceAll_of_occurrences (hb : BraceFree b)
    (h : Filled (enclose b) value n text filled) (hn : n = occurrences (enclose b) text) :
    filled = replaceAll (enclose b) value text := by
  induction h with
  | nil => exact (replaceAll_nil (enclose_ne_nil b) value).symm
  | @keep n text filled c h ih =>
    by_cases hstands : enclose b <+: c :: text
    · -- A place that is left out is missing in the count.
      obtain ⟨rest, filled', hrest, -, h'⟩ := exists_of_filled_cons hb hstands h
      have hle := le_occurrences hb h'
      rw [hrest, occurrences_enclose_append hb] at hn
      omega
    · rw [occurrences_cons hstands] at hn
      rw [replaceAll_cons (enclose_ne_nil b) hstands, ih hn]
  | fill hwhole h ih =>
    rw [hwhole, occurrences_enclose_append hb] at hn
    rw [hwhole, replaceAll_append_self (enclose_ne_nil b), ih (Nat.succ.inj hn)]

theorem occurrences_of_eq_replaceAll (hb : BraceFree b)
    (h : Filled (enclose b) value n text filled) (hlength : value.length = (enclose b).length)
    (heq : filled = replaceAll (enclose b) value text) :
    value = enclose b ∨ n = occurrences (enclose b) text := by
  induction h with
  | nil => exact .inr rfl
  | @keep n text filled c h ih =>
    by_cases hstands : enclose b <+: c :: text
    · -- A place that is left out still has the piece, and the other text has the value there.
      obtain ⟨rest, filled', hrest, hfilled, -⟩ := exists_of_filled_cons hb hstands h
      rw [hrest, hfilled, replaceAll_append_self (enclose_ne_nil b)] at heq
      exact .inl (List.append_inj_left heq hlength.symm).symm
    · rw [replaceAll_cons (enclose_ne_nil b) hstands] at heq
      rw [occurrences_cons hstands]
      exact ih (List.cons.inj heq).2
  | fill hwhole h ih =>
    rw [hwhole, replaceAll_append_self (enclose_ne_nil b)] at heq
    rw [hwhole, occurrences_enclose_append hb, Nat.add_right_cancel_iff]
    exact ih (List.append_cancel_left heq)

/-- Filling some of the places comes to replacing all just when no place is left out or there is
nothing to replace. -/
theorem eq_replaceAll_iff (hb : BraceFree b) (h : Filled (enclose b) value n text filled) :
    filled = replaceAll (enclose b) value text ↔
      value = enclose b ∨ n = occurrences (enclose b) text := by
  constructor
  · intro heq
    by_cases hlength : value.length = (enclose b).length
    · exact occurrences_of_eq_replaceAll hb h hlength heq
    · -- Every place that is filled changes the length by as much.
      have hall := (filled_replaceAll hb value text).length_eq
      have hsome := h.length_eq
      rw [heq] at hsome
      have hprod : ((n : Int) - occurrences (enclose b) text) *
          (value.length - (enclose b).length) = 0 := by
        zify at hall hsome
        linear_combination hall - hsome
      refine .inr ?_
      rcases Int.mul_eq_zero.mp hprod with hzero | hzero <;> omega
  · rintro (rfl | hn)
    · rw [h.eq_self, (filled_replaceAll hb (enclose b) text).eq_self]
    · exact eq_replaceAll_of_occurrences hb h hn

end Template

-- ---------------------------------------------------------------------------
-- All places at once
-- ---------------------------------------------------------------------------

def replaceEachFrom (values : List (Text × Text)) (skip : Nat) : Text → Text
  -- Walks along a text of which `skip` more characters belong to a key already replaced.
  | [] => []
  | c :: cs =>
    match skip with
    | skip + 1 => replaceEachFrom values skip cs
    | 0 =>
      match values.find? (·.1.isPrefixOf (c :: cs)) with
      | some (key, value) => value ++ replaceEachFrom values (key.length - 1) cs
      | none => c :: replaceEachFrom values 0 cs

/-- Every place where a key stands gets its value, the first one of the key, and what is put in is
not searched. No key is empty. -/
def replaceEach (values : List (Text × Text)) (text : Text) : Text := replaceEachFrom values 0 text

/-- The keys are texts of variables. -/
def Keyed (values : List (Text × Text)) : Prop :=
  ∀ v ∈ values, ∃ b, v.1 = Template.enclose b ∧ BraceFree b

namespace Template

theorem groups_induction {motive : Text → Prop} (nil : motive [])
    (group : ∀ b rest, BraceFree b → motive rest → motive (enclose b ++ rest))
    (char : ∀ c rest, (∀ b, BraceFree b → ¬enclose b <+: c :: rest) → motive rest →
      motive (c :: rest))
    (text : Text) : motive text := by
  induction hlength : text.length using Nat.strongRecOn generalizing text with
  | _ length ih =>
    cases text with
    | nil => exact nil
    | cons c cs =>
      -- Either some group begins here, and it is gone past as a whole, or none does.
      by_cases h : ∃ b, BraceFree b ∧ enclose b <+: c :: cs
      · obtain ⟨b, hb, rest, heq⟩ := h
        have hlt : rest.length < length := by
          rw [← hlength, ← heq, List.length_append, enclose, List.length_append, List.length_cons]
          omega
        exact heq ▸ group b rest hb (ih rest.length hlt rest rfl)
      · refine char c cs (fun b hb hstands => h ⟨b, hb, hstands⟩) ?_
        exact ih cs.length (by simp [← hlength]) cs rfl

variable {values : List (Text × Text)}

theorem find?_isPrefixOf (hvalues : Keyed values) (hb : BraceFree b) (rest : Text) :
    values.find? (·.1.isPrefixOf (enclose b ++ rest)) =
      (values.lookup (enclose b)).map (enclose b, ·) := by
  induction values with
  | nil => rfl
  | cons v values ih =>
    obtain ⟨⟨b', hkey, hb'⟩, hrest⟩ := List.forall_mem_cons.mp hvalues
    obtain ⟨key, value⟩ := v
    obtain rfl : key = enclose b' := hkey
    by_cases hbb : b' = b
    · subst hbb
      simp
    -- Two groups of which one begins the other are the same.
    · have hstands : (enclose b').isPrefixOf (enclose b ++ rest) = false :=
        Bool.eq_false_iff.mpr fun hstands =>
          hbb (eq_of_prefix_enclose hb' hb (List.isPrefixOf_iff_prefix.mp hstands))
      have hne : (enclose b == enclose b') = false :=
        beq_eq_false_iff_ne.mpr fun heq => hbb (enclose_inj heq).symm
      rw [List.find?_cons, hstands, List.lookup_cons, hne]
      exact ih hrest

theorem replaceEachFrom_append (values : List (Text × Text)) (front rest : Text) :
    replaceEachFrom values front.length (front ++ rest) = replaceEach values rest := by
  induction front with
  | nil => rfl
  | cons c cs ih => rw [List.length_cons, List.cons_append, replaceEachFrom, ih]

private theorem replaceEach_cons (hvalues : Keyed values)
    (h : ∀ b, BraceFree b → ¬enclose b <+: c :: rest) :
    replaceEach values (c :: rest) = c :: replaceEach values rest := by
  have hnone : values.find? (·.1.isPrefixOf (c :: rest)) = none := by
    refine List.find?_eq_none.mpr fun v hv hstands => ?_
    obtain ⟨b, hkey, hb⟩ := hvalues v hv
    exact h b hb (hkey ▸ List.isPrefixOf_iff_prefix.mp hstands)
  rw [replaceEach, replaceEachFrom, hnone]
  rfl

private theorem replaceEach_append_of_not_mem (hvalues : Keyed values) (hfront : '{' ∉ front)
    (rest : Text) : replaceEach values (front ++ rest) = front ++ replaceEach values rest := by
  induction front with
  | nil => rfl
  | cons c cs ih =>
    have hc := Ne.symm (List.ne_of_not_mem_cons hfront)
    rw [List.cons_append, replaceEach_cons hvalues fun b _ => not_enclose_prefix_cons hc,
      ih (List.not_mem_of_not_mem_cons hfront), List.cons_append]

private theorem replaceEach_enclose (hvalues : Keyed values) (hb : BraceFree b) (rest : Text) :
    replaceEach values (enclose b ++ rest) =
      (values.lookup (enclose b)).getD (enclose b) ++ replaceEach values rest := by
  have hfind := find?_isPrefixOf hvalues hb rest
  have hinside := open_not_mem_append hb
  rw [enclose, List.cons_append, List.cons_append] at hfind ⊢
  rw [replaceEach, replaceEachFrom, hfind]
  cases values.lookup ('{' :: (b ++ ['}'])) with
  | none => exact congrArg _ (replaceEach_append_of_not_mem hvalues hinside rest)
  | some value => exact congrArg _ (replaceEachFrom_append values (b ++ ['}']) rest)

theorem replaceEach_congr {values' : List (Text × Text)} (hvalues : Keyed values)
    (hvalues' : Keyed values') (h : ∀ key, values.lookup key = values'.lookup key) (text : Text) :
    replaceEach values text = replaceEach values' text := by
  induction text using groups_induction with
  | nil => rfl
  | group b rest hb ih =>
    rw [replaceEach_enclose hvalues hb, replaceEach_enclose hvalues' hb, h, ih]
  | char c rest hc ih => rw [replaceEach_cons hvalues hc, replaceEach_cons hvalues' hc, ih]

theorem filled_replaceEach {v : Text × Text} (hvalues : Keyed (values ++ [v])) (text : Text) :
    Filled v.1 v.2 (if (values.lookup v.1).isSome then 0 else occurrences v.1 text)
      (replaceEach values text) (replaceEach (values ++ [v]) text) := by
  have hfront : Keyed values := fun w hw => hvalues w (List.mem_append_left _ hw)
  obtain ⟨b', hkey, hb'⟩ := hvalues v (by simp)
  obtain ⟨key, value⟩ := v
  obtain rfl : key = enclose b' := hkey
  induction text using groups_induction with
  | nil =>
    simp only [occurrences, ite_self]
    exact .nil
  | group b rest hb ih =>
    rw [replaceEach_enclose hfront hb, replaceEach_enclose hvalues hb, List.lookup_append]
    -- The new key fills this group, unless an earlier value has done so.
    by_cases hbb : b = b'
    · subst hbb
      cases hlookup : values.lookup (enclose b) with
      | none =>
        rw [hlookup, if_neg (by decide)] at ih
        rw [if_neg (by decide), occurrences_enclose_append hb]
        simpa using Filled.fill rfl ih
      | some first =>
        rw [hlookup] at ih
        exact ih.append first
    · have hne : (enclose b == enclose b') = false :=
        beq_eq_false_iff_ne.mpr fun heq => hbb (enclose_inj heq)
      have hlast : List.lookup (enclose b) [(enclose b', value)] = none := by
        simp [List.lookup_cons, hne]
      rw [occurrences_enclose_append_of_ne hb hb' hbb, hlast, Option.or_none]
      exact ih.append _
  | char c rest hc ih =>
    rw [replaceEach_cons hfront hc, replaceEach_cons hvalues hc, occurrences_cons (hc b' hb')]
    exact .keep c ih

end Template

/-- No value, by itself or with its neighbours, makes the text of one that is put in later: this
stands where it stood before any value was put in, and nowhere once it has been filled. A value that
is its own key may find more places, since it changes none. -/
def Undisturbed (values : List (Text × Text)) (working : Text) : Prop :=
  ∀ done v, done ++ [v] <+: values → v.2 = v.1 ∨
    occurrences v.1 (replaceEach done working) =
      if (done.lookup v.1).isSome then 0 else occurrences v.1 working

theorem putValues_concat (done : List (Text × Text)) (v : Text × Text) (working : Text) :
    putValues (done ++ [v]) working = replaceAll v.1 v.2 (putValues done working) :=
  List.foldl_append

theorem replaceEach_nil (text : Text) : replaceEach [] text = text := by
  induction text with
  | nil => rfl
  | cons c cs ih => exact congrArg (c :: ·) ih

/-- One value after the other comes to all at once, after every one of them, just when none makes
the text of a later one. -/
theorem putValues_eq_replaceEach_iff {values : List (Text × Text)} (hvalues : Keyed values)
    (working : Text) :
    (∀ done, done <+: values → putValues done working = replaceEach done working) ↔
      Undisturbed values working := by
  have hkeyed {done : List (Text × Text)} (hdone : done <+: values) : Keyed done :=
    fun v hv => hvalues v (hdone.subset hv)
  -- What the next value does, if the ones before it have come to all at once.
  have hstep {done : List (Text × Text)} {v : Text × Text} (hdone : done ++ [v] <+: values) :
      replaceAll v.1 v.2 (replaceEach done working) = replaceEach (done ++ [v]) working ↔
        v.2 = v.1 ∨ occurrences v.1 (replaceEach done working) =
          if (done.lookup v.1).isSome then 0 else occurrences v.1 working := by
    obtain ⟨b, hkey, hb⟩ := hvalues v (hdone.subset (by simp))
    have hfilled := Template.filled_replaceEach (hkeyed hdone) working
    rw [hkey] at hfilled ⊢
    rw [eq_comm, Template.eq_replaceAll_iff hb hfilled, eq_comm (a := occurrences _ _)]
  constructor
  · intro h done v hdone
    have hfront := h done ((List.prefix_append _ _).trans hdone)
    rw [← hstep hdone, ← h _ hdone, putValues_concat, hfront]
  · intro h done
    induction done using List.reverseRecOn with
    | nil => exact fun _ => (replaceEach_nil working).symm
    | append_singleton done v ih =>
      intro hdone
      rw [putValues_concat, ih ((List.prefix_append _ _).trans hdone)]
      exact (hstep hdone).mpr (h done v hdone)

-- ---------------------------------------------------------------------------
-- The order of the kinds
-- ---------------------------------------------------------------------------

theorem Form.kind_resolve {form : Form} {v : Variable} (h : form.resolve text = .ok v) :
    v.kind = form.kind := by
  cases form with
  | parent _ _ | index _ | capture _ _ | column _ _ =>
    obtain ⟨_, -, hpure⟩ := bind_eq_ok.mp h
    exact Except.ok.inj hpure ▸ rfl
  | _ => exact Except.ok.inj h ▸ rfl

theorem kind_eq_of_text_eq {tokens : Tokens} (htokens : Template.tokens template = .ok tokens)
    {token token' : Token} (htoken : token ∈ tokens) (htoken' : token' ∈ tokens)
    (htext : token.text = token'.text) : token.wanted.kind = token'.wanted.kind := by
  obtain ⟨b, -, kind, form, hform, hb, hresolve⟩ := (Template.mem_tokens htokens).mp htoken
  obtain ⟨b', -, kind', form', hform', hb', hresolve'⟩ := (Template.mem_tokens htokens).mp htoken'
  rw [hb, hb'] at htext
  obtain rfl := Template.enclose_inj htext
  rw [Form.kind_resolve hresolve, Form.kind_resolve hresolve',
    (Form.readAs?_eq_some_iff.mp hform).1, (Form.readAs?_eq_some_iff.mp hform').1]
  exact Form.kind_unique hform hform'

theorem mem_of_lookup {key : Text} {values : List (Text × Text)}
    (h : values.lookup key = some value) : (key, value) ∈ values := by
  obtain ⟨front, back, rfl, -⟩ := List.lookup_eq_some_iff.mp h
  exact List.mem_append_right _ List.mem_cons_self

theorem lookup_flatMap_perm {f : κ → List (Text × Text)} {kinds kinds' : List κ}
    (hperm : kinds.Perm kinds') (hunique : ∀ kind kind' value value', (key, value) ∈ f kind →
      (key, value') ∈ f kind' → kind = kind') :
    (kinds.flatMap f).lookup key = (kinds'.flatMap f).lookup key := by
  induction hperm with
  | nil => rfl
  | cons kind hperm ih => simp only [List.flatMap_cons, List.lookup_append, ih]
  | swap kind kind' kinds =>
    simp only [List.flatMap_cons, List.lookup_append]
    cases hlookup : (f kind).lookup key with
    | none => rfl
    | some value =>
      cases hlookup' : (f kind').lookup key with
      | none => rfl
      | some value' =>
        -- A key that both kinds had would make them one kind.
        obtain rfl := hunique kind kind' value value' (mem_of_lookup hlookup)
          (mem_of_lookup hlookup')
        rw [← hlookup, ← hlookup']
  | trans hfirst hsecond ih ih' => exact ih.trans ih'

namespace Tokens

variable {tokens : Tokens} {valueOf : Variable → Text} {numbers : List Int}

def valuesOfKind (tokens : Tokens) (valueOf : Variable → Text) (numbers : List Int)
    (kind : VariableKind) : List (Text × Text) :=
  if kind = .index then
    ((tokens.ofKind .index).zip (List.zipWith Index.render tokens.indexes numbers)).map
      fun (token, text) => (token.text, text)
  else (tokens.ofKind kind).map fun token => (token.text, valueOf token.wanted)

def valuesInOrder (kinds : List VariableKind) (tokens : Tokens) (valueOf : Variable → Text)
    (numbers : List Int) : List (Text × Text) :=
  kinds.flatMap (tokens.valuesOfKind valueOf numbers)

theorem valuesInOrder_resolutionOrder :
    valuesInOrder VariableKind.resolutionOrder tokens valueOf numbers = tokens.values valueOf numbers := rfl

theorem exists_token_of_mem_valuesOfKind {v : Text × Text}
    (h : v ∈ tokens.valuesOfKind valueOf numbers kind) :
    ∃ token ∈ tokens, token.wanted.kind = kind ∧ v.1 = token.text := by
  have hkind {token : Token} (h : token ∈ tokens.ofKind kind) :
      token ∈ tokens ∧ token.wanted.kind = kind := by
    simpa [ofKind] using h
  unfold valuesOfKind at h
  split at h
  case isTrue hindex =>
    obtain ⟨⟨token, text⟩, hmem, rfl⟩ := List.mem_map.mp h
    obtain ⟨htoken, hwanted⟩ := hkind (hindex ▸ (List.of_mem_zip hmem).1)
    exact ⟨token, htoken, hwanted, rfl⟩
  case isFalse =>
    obtain ⟨token, hmem, rfl⟩ := List.mem_map.mp h
    exact ⟨token, (hkind hmem).1, (hkind hmem).2, rfl⟩

theorem keyed_valuesInOrder (htokens : Template.tokens template = .ok tokens)
    (kinds : List VariableKind) : Keyed (tokens.valuesInOrder kinds valueOf numbers) := by
  intro v hv
  obtain ⟨kind, -, hv⟩ := List.mem_flatMap.mp hv
  obtain ⟨token, htoken, -, hkey⟩ := exists_token_of_mem_valuesOfKind hv
  obtain ⟨b, htext, hb⟩ := braceFree_token htokens htoken
  exact ⟨b, hkey.trans htext, hb⟩

/-- Filling all places at once knows of no order of the kinds. -/
theorem replaceEach_valuesInOrder (htokens : Template.tokens template = .ok tokens)
    {kinds kinds' : List VariableKind} (hperm : kinds.Perm kinds') (working : Text) :
    replaceEach (tokens.valuesInOrder kinds valueOf numbers) working =
      replaceEach (tokens.valuesInOrder kinds' valueOf numbers) working := by
  refine Template.replaceEach_congr (keyed_valuesInOrder htokens kinds)
    (keyed_valuesInOrder htokens kinds') (fun key => ?_) working
  refine lookup_flatMap_perm hperm fun kind kind' value value' hv hv' => ?_
  obtain ⟨token, htoken, rfl, hkey⟩ := exists_token_of_mem_valuesOfKind hv
  obtain ⟨token', htoken', rfl, hkey'⟩ := exists_token_of_mem_valuesOfKind hv'
  exact kind_eq_of_text_eq htokens htoken htoken' (hkey.symm.trans hkey')

end Tokens

section Resolve

variable {setting : Setting} {source : MetadataSource} {search : Pattern} {subject : Subject}
variable {tokens : Tokens}

/-- In whichever order the kinds are resolved, the values come to the same as all at once, after
every one of them, just when none makes the text of a later one, and all at once is the same for
every order. -/
theorem resolve_at_once_iff (htokens : Template.tokens template = .ok tokens)
    (hresolve : (resolve setting source search tokens subject working counters).Answers log
      (found, after) log') :
    ∃ valueOf : Variable → Text,
      found.values = tokens.valuesInOrder VariableKind.resolutionOrder valueOf found.numbers ∧
      found.text = putValues found.values working ∧
      ∀ kinds : List VariableKind, kinds.Perm VariableKind.resolutionOrder →
        let values := tokens.valuesInOrder kinds valueOf found.numbers
        replaceEach values working = replaceEach found.values working ∧
        ((∀ done, done <+: values → putValues done working = replaceEach done working) ↔
          Undisturbed values working) := by
  obtain ⟨facts, middle, -, hpure⟩ := Lookups.answers_bind.mp hresolve
  obtain ⟨heq, -⟩ := Lookups.answers_pure.mp hpure
  obtain ⟨rfl, -⟩ := Prod.mk.inj heq
  -- The values are fixed before any of them is put in.
  refine ⟨Variable.value setting search subject facts, rfl, rfl, fun kinds hperm => ⟨?_, ?_⟩⟩
  · exact Tokens.replaceEach_valuesInOrder htokens hperm working
  · exact putValues_eq_replaceEach_iff (Tokens.keyed_valuesInOrder htokens kinds) working

def partsOfName : Text := "{f}{ext}".toList

def partsOfNameTokens : Tokens :=
  [⟨"{f}".toList, .stem none⟩, ⟨"{ext}".toList, .extension none⟩]

def Subject.named (name : Text) : Subject := ⟨name, name, [], false⟩

theorem answers_partsOfName (name : Text) :
    (resolve .bare .silent .wholeText partsOfNameTokens (.named name) partsOfName .fresh).Answers []
      (resolution .bare .wholeText partsOfNameTokens (.named name) .none partsOfName .fresh) [] := by
  rw [resolve_of_nameOnly .bare .silent _ (by decide)]
  exact Lookups.answers_pure.mpr ⟨rfl, rfl⟩

theorem resolve_at_once_iff_partsOfName :
    ∃ found after, (resolve .bare .silent .wholeText partsOfNameTokens
        (.named "a{f}.txt".toList) partsOfName .fresh).Answers [] (found, after) [] ∧
      found.text = "a{f}.txt".toList ∧
      ∃ valueOf : Variable → Text,
        found.values =
          partsOfNameTokens.valuesInOrder VariableKind.resolutionOrder valueOf found.numbers ∧
        found.text = putValues found.values partsOfName ∧
        ∀ kinds : List VariableKind, kinds.Perm VariableKind.resolutionOrder →
          let values := partsOfNameTokens.valuesInOrder kinds valueOf found.numbers
          replaceEach values partsOfName = replaceEach found.values partsOfName ∧
          ((∀ done, done <+: values → putValues done partsOfName = replaceEach done partsOfName) ↔
            Undisturbed values partsOfName) :=
  -- A stem may well hold its own text.
  ⟨_, _, answers_partsOfName _, by decide +kernel,
    resolve_at_once_iff (show Template.tokens partsOfName = .ok partsOfNameTokens by decide +kernel)
      (answers_partsOfName _)⟩

/-- A stem that is the text of the extension gets an extension, though all at once, and in another
order of the kinds too, it would stay. -/
theorem not_always_at_once :
    ∃ found after, Template.tokens partsOfName = .ok partsOfNameTokens ∧
      (resolve .bare .silent .wholeText partsOfNameTokens (.named "{ext}.txt".toList) partsOfName
        .fresh).Answers [] (found, after) [] ∧
      found.text = ".txt.txt".toList ∧
      replaceEach found.values partsOfName = "{ext}.txt".toList ∧
      putValues (partsOfNameTokens.valuesInOrder VariableKind.resolutionOrder.reverse
        (Variable.value .bare .wholeText (.named "{ext}.txt".toList) .none) found.numbers)
        partsOfName = "{ext}.txt".toList :=
  ⟨_, _, by decide +kernel, answers_partsOfName _, by decide +kernel, by decide +kernel,
    by decide +kernel⟩

end Resolve

end Relabel
