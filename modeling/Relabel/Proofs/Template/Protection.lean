import Relabel.Proofs.Template.Forms
import Relabel.Proofs.Template.Segments
import Relabel.Proofs.Text.Occurrence

/-!
# Protecting variables

Protection doubles the dollar signs inside the variables and touches nothing else, though it goes
by texts and not by places: a variable stands nowhere but where the segments say, and one that has
been doubled is no variable any more.
-/

namespace Relabel

namespace Template

open Text Segment

-- ---------------------------------------------------------------------------
-- Replacing a brace group
-- ---------------------------------------------------------------------------

theorem enclose_ne_nil (body : Text) : enclose body ≠ [] := List.cons_ne_nil _ _

theorem enclose_append (body rest : Text) : enclose body ++ rest = '{' :: (body ++ '}' :: rest) := by
  simp [enclose]

theorem groupBody?_of_prefix (hb : BraceFree b) (h : enclose b <+: '{' :: rest) :
    groupBody? rest = some b := by
  obtain ⟨behind, hbehind⟩ := h
  rw [enclose_append] at hbehind
  rw [← (List.cons.inj hbehind).2, groupBody?_append hb]

theorem replaceAll_enclose_cons (hc : c ≠ '{') (b value rest : Text) :
    replaceAll (enclose b) value (c :: rest) = c :: replaceAll (enclose b) value rest := by
  refine replaceAll_cons (enclose_ne_nil b) (fun hprefix => ?_) value
  obtain ⟨behind, hbehind⟩ := hprefix
  exact hc (List.cons.inj hbehind).1.symm

theorem replaceAll_enclose_append (hfront : '{' ∉ front) (b value rest : Text) :
    replaceAll (enclose b) value (front ++ rest) = front ++ replaceAll (enclose b) value rest := by
  induction front with
  | nil => rfl
  | cons c cs ih =>
    have hc := Ne.symm (List.ne_of_not_mem_cons hfront)
    rw [List.cons_append, replaceAll_enclose_cons hc, ih (List.not_mem_of_not_mem_cons hfront)]
    rfl

theorem replaceAll_enclose_enclose (hb : BraceFree b) (hbody : BraceFree body)
    (value rest : Text) :
    replaceAll (enclose b) value (enclose body ++ rest) =
      (if body = b then value else enclose body) ++ replaceAll (enclose b) value rest := by
  split
  case isTrue heq => rw [heq, replaceAll_append_self (enclose_ne_nil b)]
  case isFalse hne =>
    have hprefix : ¬enclose b <+: '{' :: (body ++ '}' :: rest) := by
      intro hprefix
      have hgroup := groupBody?_of_prefix hb hprefix
      rw [groupBody?_append hbody] at hgroup
      exact hne (Option.some.inj hgroup)
    rw [enclose_append, enclose_append, replaceAll_cons (enclose_ne_nil b) hprefix,
      replaceAll_enclose_append hbody.1, replaceAll_enclose_cons (by decide)]

-- ---------------------------------------------------------------------------
-- Doubling
-- ---------------------------------------------------------------------------

theorem doubleDollars_append (front back : Text) :
    doubleDollars (front ++ back) = doubleDollars front ++ doubleDollars back :=
  List.flatMap_append

theorem doubleDollars_of_not_mem (h : '$' ∉ body) : doubleDollars body = body := by
  induction body with
  | nil => rfl
  | cons c cs ih =>
    have hc := Ne.symm (List.ne_of_not_mem_cons h)
    have hcs := ih (List.not_mem_of_not_mem_cons h)
    rw [doubleDollars] at hcs ⊢
    rw [List.flatMap_cons, hcs, if_neg hc]
    rfl

theorem doubleDollars_enclose (body : Text) :
    doubleDollars (enclose body) = enclose (doubleDollars body) := by
  rw [enclose, List.cons_append, ← List.singleton_append, doubleDollars_append,
    doubleDollars_append]
  rfl

theorem braceFree_doubleDollars (h : BraceFree body) : BraceFree (doubleDollars body) := by
  induction body with
  | nil => exact braceFree_nil
  | cons c cs ih =>
    obtain ⟨hopen, hclose, hcs⟩ := braceFree_cons.mp h
    refine braceFree_append.mpr ⟨?_, ih hcs⟩
    by_cases hc : c = '$'
    · simp [hc, BraceFree]
    · simp [hc, BraceFree, Ne.symm hopen, Ne.symm hclose]

/-- A variable has a dollar sign at its front at most, so after doubling it is none. -/
theorem isVariable_doubleDollars (hvariable : isVariable body = true) (hdollar : '$' ∈ body) :
    isVariable (doubleDollars body) = false := by
  obtain ⟨kind, form, hform⟩ := isVariable_iff.mp hvariable
  have htail := Form.dollar_not_mem_tail_of_readAs hform
  cases body with
  | nil => cases hdollar
  | cons c cs =>
    obtain rfl : '$' = c := (List.mem_cons.mp hdollar).resolve_right htail
    refine Bool.eq_false_iff.mpr fun hdoubled => ?_
    obtain ⟨kind', form', hform'⟩ := isVariable_iff.mp hdoubled
    exact Form.dollar_not_mem_tail_of_readAs hform' (by simp [doubleDollars])

-- ---------------------------------------------------------------------------
-- The whole template
-- ---------------------------------------------------------------------------

theorem groupBody?_spell_mapBody (f : Text → Text) (template : Text) :
    groupBody? (spell ((segments template).map (mapBody f))) = groupBody? template := by
  induction template using segments_induction with
  | nil => rfl
  | token body rest hfree hvariable ih =>
    rw [segments_enclose hfree hvariable, List.map_cons, spell_cons, enclose_append]
    show groupBody? (enclose (f body) ++ _) = _
    rw [enclose_append]
    rfl
  | char c rest h ih =>
    rw [segments_cons h, map_mapBody_prepend, spell_prepend, groupBody?, groupBody?, ih]

theorem replaceAll_spell_mapBody {f : Text → Text} (hf : ∀ body, BraceFree body → BraceFree (f body))
    (hb : BraceFree b) (hvariable : isVariable b = true) (value template : Text) :
    replaceAll (enclose b) (enclose value) (spell ((segments template).map (mapBody f))) =
      spell ((segments template).map
        (mapBody fun body => if f body = b then value else f body)) := by
  induction template using segments_induction with
  | nil => exact replaceAll_nil (enclose_ne_nil b) _
  | token body rest hfree hbody ih =>
    rw [segments_enclose hfree hbody, List.map_cons, List.map_cons, spell_cons, spell_cons, ← ih]
    refine (replaceAll_enclose_enclose hb (hf body hfree) _ _).trans ?_
    simp only [mapBody, spelled]
    split <;> rfl
  | char c rest h ih =>
    rw [segments_cons h, map_mapBody_prepend, map_mapBody_prepend, spell_prepend, spell_prepend,
      ← ih]
    by_cases hc : c = '{'
    · refine replaceAll_cons (enclose_ne_nil b) (fun hprefix => ?_) _
      -- The group would be a variable of the template, and none begins here.
      have hgroup := groupBody?_of_prefix hb (hc ▸ hprefix)
      rw [groupBody?_spell_mapBody] at hgroup
      rw [tokenBody?, if_pos hc, hgroup, Option.filter_some, if_pos hvariable] at h
      cases h
    · exact replaceAll_enclose_cons hc b _ _

/-- What has become of a body when the texts so far have been doubled. -/
def doubledIn (done : List Text) (body : Text) : Text :=
  if done.contains (enclose body) then doubleDollars body else body

private theorem map_segments_congr {f g : Text → Text} (h : ∀ body, body ∈ groups template →
    BraceFree body → isVariable body = true → f body = g body) :
    (segments template).map (mapBody f) = (segments template).map (mapBody g) := by
  refine List.map_congr_left fun s hs => ?_
  cases s with
  | text content => rfl
  | token body =>
    obtain ⟨hgroups, hfree, hvariable⟩ := mem_groups_of_token_mem hs
    exact congrArg Segment.token (h body hgroups hfree hvariable)

def Protectable (text : Text) : Prop :=
  ∃ body, text = enclose body ∧ BraceFree body ∧ isVariable body = true ∧ '$' ∈ body

theorem enclose_inj (h : enclose body = enclose b) : body = b :=
  List.append_cancel_right (List.cons.inj h).2

private theorem doubledIn_concat {done : List Text} (hdone : ∀ text ∈ done, Protectable text)
    (hvariable : isVariable b = true) (body : Text) :
    (if doubledIn done body = b then doubleDollars b else doubledIn done body) =
      doubledIn (done ++ [enclose b]) body := by
  by_cases hmem : enclose body ∈ done
  · -- A body that has been doubled is no variable, so it cannot be mistaken for the next one.
    obtain ⟨body', heq, -, hbody, hdollar⟩ := hdone _ hmem
    obtain rfl := enclose_inj heq
    have hne : doubleDollars body ≠ b := by
      rintro rfl
      rw [isVariable_doubleDollars hbody hdollar] at hvariable
      cases hvariable
    simp [doubledIn, hmem, hne]
  · by_cases hb : body = b
    · subst hb
      simp [doubledIn, hmem]
    · have hne : enclose body ≠ enclose b := fun heq => hb (enclose_inj heq)
      simp [doubledIn, hmem, hb, hne]

theorem foldl_replaceAll_doubled {done texts : List Text} (hdone : ∀ text ∈ done, Protectable text)
    (htexts : ∀ text ∈ texts, Protectable text) (template : Text) :
    texts.foldl (fun working text => replaceAll text (doubleDollars text) working)
        (spell ((segments template).map (mapBody (doubledIn done)))) =
      spell ((segments template).map (mapBody (doubledIn (done ++ texts)))) := by
  induction texts generalizing done with
  | nil => rw [List.append_nil, List.foldl_nil]
  | cons first texts ih =>
    obtain ⟨hfirst, hrest⟩ := List.forall_mem_cons.mp htexts
    have hmore : ∀ text ∈ done ++ [first], Protectable text := by
      intro text htext
      rcases List.mem_append.mp htext with htext | htext
      · exact hdone text htext
      · exact List.mem_singleton.mp htext ▸ hfirst
    obtain ⟨b, rfl, hb, hvariable, -⟩ := hfirst
    have hfree : ∀ body, BraceFree body → BraceFree (doubledIn done body) := by
      intro body hbody
      unfold doubledIn
      split
      · exact braceFree_doubleDollars hbody
      · exact hbody
    rw [List.foldl_cons, doubleDollars_enclose, replaceAll_spell_mapBody hfree hb hvariable]
    simp only [doubledIn_concat hdone hvariable]
    rw [ih hmore hrest, List.append_assoc, List.singleton_append]

/-- Protection spells every variable with its dollar signs doubled and all else as it is. -/
theorem protect_eq {found : Tokens} (h : tokens template = .ok found) :
    protect template found = spell ((segments template).map (mapBody doubleDollars)) := by
  have htexts : ∀ text ∈ (found.map (·.text)).eraseDups.filter (·.contains '$'),
      Protectable text := by
    intro text htext
    obtain ⟨hmem, hdollar⟩ := List.mem_filter.mp htext
    obtain ⟨token, htoken, rfl⟩ := List.mem_map.mp (List.mem_eraseDups.mp hmem)
    obtain ⟨body, hbody, kind, form, hform, heq, -⟩ := (mem_tokens h).mp htoken
    have hfree := braceFree_of_mem_groups hbody
    rw [heq] at hdollar ⊢
    refine ⟨body, rfl, hfree, isVariable_iff.mpr ⟨kind, form, hform⟩, ?_⟩
    simpa [enclose] using hdollar
  have hstart : spell ((segments template).map (mapBody (doubledIn []))) = template := by
    have hid : mapBody (doubledIn []) = id := by
      funext s
      cases s <;> simp [mapBody, doubledIn]
    rw [hid, List.map_id, spell_segments]
  have hfold := @foldl_replaceAll_doubled [] _ (by simp) htexts template
  rw [hstart] at hfold
  rw [protect, hfold]
  -- Every variable with a dollar sign is among the texts; for the others there is nothing to do.
  refine congrArg spell (map_segments_congr fun body hbody _ hvariable => ?_)
  by_cases hdollar : '$' ∈ body
  · obtain ⟨kind, form, hform⟩ := isVariable_iff.mp hvariable
    obtain ⟨token, htoken, htext⟩ := exists_token h hbody hform
    have hmem : enclose body ∈ (found.map (·.text)).eraseDups.filter (·.contains '$') := by
      refine List.mem_filter.mpr ⟨List.mem_eraseDups.mpr (htext ▸ List.mem_map_of_mem htoken), ?_⟩
      simpa [enclose] using hdollar
    rw [doubledIn, List.nil_append, if_pos (List.contains_iff_mem.mpr hmem)]
  · rw [doubleDollars_of_not_mem hdollar, doubledIn, doubleDollars_of_not_mem hdollar, ite_self]

end Template

end Relabel
