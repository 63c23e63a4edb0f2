import Relabel.Pattern.Search
import Relabel.Proofs.Naming.NameOnly
import Relabel.Proofs.Naming.Values
import Relabel.Proofs.Numbering.Counters
import Relabel.Proofs.Template.Reading

/-!
# What a link makes of a name

The matches are replaced by the protected template, expanded, and then the values are put in, one
text after the other and wherever it stands. Where no brace comes from outside, the variables of
the expanded templates are the only brace groups, so in the end every variable has got its value
and nothing else has changed: `text_of_resolve`.
-/

namespace Relabel

open Text Template Segment

-- ---------------------------------------------------------------------------
-- Putting values in
-- ---------------------------------------------------------------------------

namespace Template.Segment

def Inert : Segment → Prop
  | text content => BraceFree content
  | token body => BraceFree body

def put (b value : Text) : Segment → Segment
  | text content => text content
  | token body => if body = b then text value else token body

def fill (values : List (Text × Text)) : Segment → Segment
  | text content => text content
  | token body =>
    match values.lookup (enclose body) with
    | some value => text value
    | none => token body

end Template.Segment

theorem replaceAll_spell {segments : List Segment} (hsegments : ∀ s ∈ segments, s.Inert)
    (hb : BraceFree b) (value : Text) :
    replaceAll (enclose b) value (spell segments) = spell (segments.map (put b value)) := by
  induction segments with
  | nil => exact replaceAll_nil (enclose_ne_nil b) value
  | cons s segments ih =>
    obtain ⟨hs, hrest⟩ := List.forall_mem_cons.mp hsegments
    rw [spell_cons, List.map_cons, spell_cons, ← ih hrest]
    -- No segment can be the start of the replaced text unless it is that token.
    cases s with
    | text content => exact replaceAll_enclose_append hs.1 b value _
    | token body =>
      refine (replaceAll_enclose_enclose hb hs value _).trans ?_
      simp only [put]
      split <;> rfl

private theorem inert_put (hvalue : BraceFree value) (h : s.Inert) (b : Text) : (put b value s).Inert := by
  cases s with
  | text content => exact h
  | token body =>
    rw [put]
    split
    · exact hvalue
    · exact h

theorem fill_put (b value : Text) (values : List (Text × Text)) (s : Segment) :
    fill values (put b value s) = fill ((enclose b, value) :: values) s := by
  cases s with
  | text content => rfl
  | token body =>
    by_cases hb : body = b
    · simp [put, fill, hb]
    · have hne : (enclose body == enclose b) = false :=
        beq_eq_false_iff_ne.mpr fun heq => hb (enclose_inj heq)
      simp [put, fill, hb, List.lookup_cons, hne]

/-- The first value of a text fills all its places, and later ones find none. -/
theorem putValues_spell {values : List (Text × Text)} {segments : List Segment}
    (hsegments : ∀ s ∈ segments, s.Inert)
    (hvalues : ∀ v ∈ values, ∃ b, v.1 = enclose b ∧ BraceFree b ∧ BraceFree v.2) :
    putValues values (spell segments) = spell (segments.map (fill values)) := by
  induction values generalizing segments with
  | nil =>
    have hid : fill [] = id := by
      funext s
      cases s <;> rfl
    rw [hid, List.map_id]
    rfl
  | cons v values ih =>
    obtain ⟨⟨b, hkey, hb, hvalue⟩, hrest⟩ := List.forall_mem_cons.mp hvalues
    obtain ⟨key, value⟩ := v
    obtain rfl : key = enclose b := hkey
    have hput : ∀ s ∈ segments.map (put b value), s.Inert := by
      intro s hs
      obtain ⟨s', hs', rfl⟩ := List.mem_map.mp hs
      exact inert_put hvalue (hsegments s' hs') b
    -- A value that is put in is text from then on and holds no group for the later ones.
    rw [putValues, List.foldl_cons, replaceAll_spell hsegments hb]
    refine (ih hput hrest).trans ?_
    rw [List.map_map]
    exact congrArg spell (List.map_congr_left fun s _ => fill_put b value values s)

-- ---------------------------------------------------------------------------
-- Between the matches
-- ---------------------------------------------------------------------------

/-- The text from a position on as segments, each match replaced by its own. -/
def spliceSegments (replaced : Match → List Segment) (whole : Text) (position : Nat) :
    List Match → List Segment
  | [] => [.text (whole.drop position)]
  | m :: rest => .text (Span.text ⟨position, m.span.start⟩ whole) ::
      (replaced m ++ spliceSegments replaced whole m.span.stop rest)

theorem spell_spliceSegments (replaced : Match → List Segment) (whole : Text) (position : Nat)
    (ms : List Match) :
    spell (spliceSegments replaced whole position ms) =
      spliceFrom (fun m => spell (replaced m)) whole position ms := by
  induction ms generalizing position with
  | nil => simp [spliceSegments, spliceFrom, spell, spelled]
  | cons m rest ih =>
    rw [spliceSegments, spell_cons, spell_append, ih, spliceFrom, List.append_assoc]
    rfl

private theorem map_spliceSegments {f : Segment → Segment} (hf : ∀ content, f (.text content) = .text content)
    (replaced : Match → List Segment) (whole : Text) (position : Nat) (ms : List Match) :
    (spliceSegments replaced whole position ms).map f =
      spliceSegments (fun m => (replaced m).map f) whole position ms := by
  induction ms generalizing position with
  | nil => simp [spliceSegments, hf]
  | cons m rest ih => simp [spliceSegments, hf, ih]

private theorem mem_spliceSegments {replaced : Match → List Segment} {whole : Text} {position : Nat}
    {ms : List Match} (h : s ∈ spliceSegments replaced whole position ms) :
    (∃ content, s = .text content ∧ ∀ c ∈ content, c ∈ whole) ∨ ∃ m, s ∈ replaced m := by
  induction ms generalizing position with
  | nil =>
    obtain rfl := List.mem_singleton.mp h
    exact .inl ⟨_, rfl, fun c hc => List.mem_of_mem_drop hc⟩
  | cons m rest ih =>
    rcases List.mem_cons.mp h with rfl | h
    · exact .inl ⟨_, rfl, fun c hc => List.mem_of_mem_drop (List.mem_of_mem_take hc)⟩
    · rcases List.mem_append.mp h with h | h
      · exact .inr ⟨m, h⟩
      · exact ih h

-- ---------------------------------------------------------------------------
-- The whole name
-- ---------------------------------------------------------------------------

theorem spelled_fill {s : Segment} {values : List (Text × Text)} {value : Text → Text} (onText : Text → Text)
    (h : ∀ body, s = .token body → values.lookup (enclose body) = some (value (enclose body))) :
    (fill values (mapText onText s)).spelled = s.read onText value := by
  cases s with
  | text content => rfl
  | token body => simp [mapText, fill, h body rfl, spelled, Segment.read]

section Link

variable {setting : Setting} {source : MetadataSource} {search : Pattern} {subject : Subject}
variable {template : Text} {tokens : Tokens}

private theorem inert_expanded {m : Match} (hseparated : Separated template) (hwhole : BraceFree whole)
    (h : s ∈ (segments template).map (mapText (m.expand names whole))) : s.Inert := by
  obtain ⟨s', hs', rfl⟩ := List.mem_map.mp h
  cases s' with
  | text content => exact braceFree_expand m names whole (hseparated.braces content hs') hwhole
  | token body => exact (mem_groups_of_token_mem hs').2.1

theorem putValues_replace (htokens : Template.tokens template = .ok tokens)
    (hseparated : Separated template) (hstem : BraceFree stem)
    {values : List (Text × Text)} {value : Text → Text}
    (hvalues : ∀ v ∈ values, ∃ b, v.1 = enclose b ∧ BraceFree b ∧ BraceFree v.2)
    (hlookup : ∀ token ∈ tokens, values.lookup token.text = some (value token.text))
    (search : Pattern) (limit : Int) :
    putValues values (search.replace limit (protect template tokens) stem) =
      spliceFrom (fun m => Template.read template (m.expand search.names stem) value) stem 0
        (selectByLimit limit (search.allMatches stem)) := by
  have hread (m : Match) :
      spell (((segments template).map (mapText (m.expand search.names stem))).map (fill values)) =
        Template.read template (m.expand search.names stem) value := by
    rw [spell, Template.read, List.map_map, List.flatMap_map]
    refine List.flatMap_congr fun s hs => spelled_fill _ fun body hbody => ?_
    obtain ⟨hgroups, -, hvariable⟩ := mem_groups_of_token_mem (hbody ▸ hs)
    obtain ⟨kind, form, hform⟩ := isVariable_iff.mp hvariable
    obtain ⟨token, htoken, htext⟩ := exists_token htokens hgroups hform
    exact htext ▸ hlookup token htoken
  simp only [Pattern.replace, expand_protect _ _ _ htokens hseparated.untouched]
  -- The name between the matches and the expanded templates make up one list of segments.
  rw [← spell_spliceSegments, putValues_spell ?_ hvalues, map_spliceSegments fun _ => rfl,
    spell_spliceSegments]
  · simp only [hread]
  · intro s hs
    rcases mem_spliceSegments hs with ⟨content, rfl, hcontent⟩ | ⟨m, hm⟩
    · exact ⟨fun hmem => hstem.1 (hcontent _ hmem), fun hmem => hstem.2 (hcontent _ hmem)⟩
    · exact inert_expanded hseparated hstem hm

theorem braceFree_token (h : Template.tokens template = .ok tokens) {token : Token}
    (htoken : token ∈ tokens) : ∃ b, token.text = enclose b ∧ BraceFree b := by
  obtain ⟨b, hb, -, -, -, htext, -⟩ := (mem_tokens h).mp htoken
  exact ⟨b, htext, braceFree_of_mem_groups hb⟩

/-- What a link makes of a name, by the template alone: every match that the limit selects gives
way to the template read segment by segment, with the groups of the match in the text and with the
values in place of the variables, and what lies outside of these matches stays. -/
theorem text_of_resolve (htokens : Template.tokens template = .ok tokens)
    (hseparated : Separated template) (hstem : BraceFree stem)
    (hresolve : (resolve setting source search tokens subject
      (search.replace limit (protect template tokens) stem) counters).Answers log (found, after) log')
    (hvalues : ∀ v ∈ found.values, BraceFree v.2) :
    ∃ value : Text → Text,
      (∀ token ∈ tokens, found.values.lookup token.text = some (value token.text)) ∧
      found.text = spliceFrom (fun m => Template.read template (m.expand search.names stem) value)
        stem 0 (selectByLimit limit (search.allMatches stem)) := by
  obtain ⟨facts, middle, -, hpure⟩ := Lookups.answers_bind.mp hresolve
  obtain ⟨heq, -⟩ := Lookups.answers_pure.mp hpure
  obtain ⟨hfound, -⟩ := Prod.mk.inj heq
  have hlength : found.numbers.length = tokens.indexes.length := by
    rw [← hfound]
    exact Counters.length_advanceAll ..
  have hfilled : found.values =
      tokens.values (Variable.value setting search subject facts) found.numbers := by
    rw [← hfound]
  -- Tokens of one text may have several values; the one put in first leaves none to the others.
  have hlookup : ∀ token ∈ tokens, found.values.lookup token.text =
      some ((found.values.lookup token.text).getD []) := by
    intro token htoken
    obtain ⟨value, hmem⟩ := Tokens.exists_mem_values hlength htoken
    have hsome : (found.values.lookup token.text).isSome :=
      List.lookup_isSome_iff.mpr ⟨_, hfilled ▸ hmem, by simp⟩
    obtain ⟨first, hfirst⟩ := Option.isSome_iff_exists.mp hsome
    rw [hfirst, Option.getD_some]
  refine ⟨fun text => (found.values.lookup text).getD [], hlookup, ?_⟩
  rw [← putValues_replace htokens hseparated hstem (fun v hv => ?_) hlookup, ← hfound]
  obtain ⟨token, htoken, hkey⟩ := Tokens.exists_token_of_mem_values (hfilled ▸ hv)
  obtain ⟨b, htext, hb⟩ := braceFree_token htokens htoken
  exact ⟨b, hkey.trans htext, hb, hvalues v hv⟩

def twoCharacters : Pattern :=
  match Pattern.compile ⟨false, false⟩ ".(.)".toList with
  | .ok p => p
  | .error _ => .wholeText

def numberedCapture : Text := "$1{%03d}-{$1.up}".toList

def numberedCaptureTokens : Tokens :=
  [⟨"{%03d}".toList, .index ⟨1, 1, 3, .decimal, [], none⟩⟩,
    ⟨"{$1.up}".toList, .capture (some 1) (.text .upper)⟩]

theorem text_of_resolve_numberedCapture :
    ∃ found after, (resolve .bare .silent twoCharacters numberedCaptureTokens
        ⟨"ab.cd".toList, "ab.cd".toList, [], false⟩
        (twoCharacters.replace 1 (protect numberedCapture numberedCaptureTokens) "ab.cd".toList)
        .fresh).Answers [] (found, after) [] ∧ found.text = "b001-B.cd".toList ∧
      ∃ value : Text → Text,
        (∀ token ∈ numberedCaptureTokens,
          found.values.lookup token.text = some (value token.text)) ∧
        found.text = spliceFrom
          (fun m => Template.read numberedCapture (m.expand twoCharacters.names "ab.cd".toList) value)
          "ab.cd".toList 0 (selectByLimit 1 (twoCharacters.allMatches "ab.cd".toList)) := by
  have hnames : numberedCaptureTokens.NameOnly := by decide
  have htokens : Template.tokens numberedCapture = .ok numberedCaptureTokens := by decide +kernel
  have hsegments : segments numberedCapture = [.text "$1".toList, .token "%03d".toList,
      .text "-".toList, .token "$1.up".toList] := by decide +kernel
  have hseparated : Separated numberedCapture := by
    refine ⟨fun content hcontent => ?_, ?_⟩
    · rw [hsegments] at hcontent
      rcases List.mem_cons.mp hcontent with heq | hcontent
      · exact Segment.text.inj heq ▸ by decide
      · obtain rfl : content = "-".toList := by simpa using hcontent
        decide
    · rw [hsegments]
      decide
  have hresolve := Lookups.answers_pure.mpr ⟨@rfl _ (resolution .bare twoCharacters
    numberedCaptureTokens ⟨"ab.cd".toList, "ab.cd".toList, [], false⟩ .none
    (twoCharacters.replace 1 (protect numberedCapture numberedCaptureTokens) "ab.cd".toList)
    .fresh), @rfl _ []⟩
  rw [← resolve_of_nameOnly .bare .silent _ hnames] at hresolve
  exact ⟨_, _, hresolve, by decide +kernel,
    text_of_resolve htokens hseparated (by decide) hresolve (by decide +kernel)⟩

end Link

end Relabel
