import Mathlib.Data.List.Basic
import Relabel.Proofs.Naming.Asking

/-!
# What is asked about a file

The variables of a template ask for times, digests and the like: `Tokens.questions`. These are the
questions that looking up one variable after the other comes to, as nothing that is known is asked
again (`Tokens.questions_eq_askOnce`, `Facts.asks_fetch`).
-/

namespace Relabel

open Lookups

namespace Variable

def needsTimes : Variable → Bool
  | time item .. => item ≠ .now
  | _ => false

def digest? : Variable → Option DigestAlgorithm
  | digest algorithm _ => some algorithm
  | _ => none

def column? : Variable → Option Nat
  | column number _ => some number
  | _ => none

end Variable

/-- What the variables ask about a file: its times if one tells a time of the file, each digest
once, in the order in which the algorithms first appear, picture, exiftool and song data once if a
variable is of the kind, and the columns as they are named. -/
def Tokens.questions (tokens : Tokens) : List Query :=
  let once (kind : VariableKind) (query : Query) : List Query :=
    if tokens.any (·.wanted.kind = kind) then [query] else []
  (if tokens.any (Variable.needsTimes ·.wanted) then [.times] else []) ++
    ((tokens.filterMap (Variable.digest? ·.wanted)).eraseDups.map .digest ++
      (once .picture .picture ++ (once .exifTool .exifTool ++ (once .song .song ++
        (tokens.filterMap (Variable.column? ·.wanted)).map .column))))

def Query.isColumn : Query → Bool
  | column _ => true
  | _ => false

def Query.kind : Query → VariableKind
  | times => .time
  | digest _ => .digest
  | picture => .picture
  | exifTool => .exifTool
  | song => .song
  | column _ => .column

def askOnce (asked : List Query) : List Query → List Query
  | [] => []
  | query :: rest =>
    if query.isColumn then query :: askOnce asked rest
    else if query ∈ asked then askOnce asked rest
    else query :: askOnce (query :: asked) rest

/-- Only what is still to be asked about counts. -/
theorem askOnce_congr {asked asked' queries : List Query}
    (h : ∀ query ∈ queries, query ∈ asked ↔ query ∈ asked') :
    askOnce asked queries = askOnce asked' queries := by
  induction queries generalizing asked asked' with
  | nil => rfl
  | cons first rest ih =>
    obtain ⟨hfirst, hrest⟩ := List.forall_mem_cons.mp h
    have hmore : ∀ query ∈ rest, query ∈ first :: asked ↔ query ∈ first :: asked' :=
      fun query hquery => by rw [List.mem_cons, List.mem_cons, hrest query hquery]
    simp only [askOnce, hfirst, ih hrest, ih hmore]

theorem askOnce_append {front back : List Query} (h : ∀ query ∈ front, query ∉ back)
    (asked : List Query) :
    askOnce asked (front ++ back) = askOnce asked front ++ askOnce asked back := by
  induction front generalizing asked with
  | nil => rfl
  | cons first rest ih =>
    obtain ⟨hfirst, hrest⟩ := List.forall_mem_cons.mp h
    have hback : askOnce (first :: asked) back = askOnce asked back :=
      askOnce_congr fun query hquery => by
        simp [show query ≠ first from fun heq => hfirst (heq ▸ hquery)]
    simp only [List.cons_append, askOnce, ih hrest, hback]
    split
    · rfl
    · split <;> rfl

private theorem askOnce_of_forall_eq {queries : List Query} (hquery : query.isColumn = false)
    (h : ∀ q ∈ queries, q = query) :
    askOnce [] queries = if queries = [] then [] else [query] := by
  cases queries with
  | nil => rfl
  | cons first rest =>
    obtain ⟨rfl, hrest⟩ := List.forall_mem_cons.mp h
    have hnone : askOnce [first] rest = [] := by
      -- The first of them has asked the question, so none of the others asks again.
      clear h
      induction rest with
      | nil => rfl
      | cons second rest ih =>
        obtain ⟨rfl, hrest⟩ := List.forall_mem_cons.mp hrest
        rw [askOnce, if_neg (by simp [hquery]), if_pos List.mem_cons_self, ih hrest]
    rw [askOnce, if_neg (by simp [hquery]), if_neg List.not_mem_nil, hnone,
      if_neg (List.cons_ne_nil _ _)]

private theorem askOnce_digests (asked : List DigestAlgorithm) (algorithms : List DigestAlgorithm) :
    askOnce (asked.map .digest) (algorithms.map .digest) =
      (algorithms.filter (· ∉ asked)).eraseDups.map .digest := by
  induction algorithms generalizing asked with
  | nil => rfl
  | cons first rest ih =>
    have hmem : Query.digest first ∈ asked.map Query.digest ↔ first ∈ asked := by simp
    rw [List.map_cons, askOnce, if_neg (by simp [Query.isColumn])]
    by_cases hfirst : first ∈ asked
    · rw [if_pos (hmem.mpr hfirst), ih, List.filter_cons_of_neg (by simpa using hfirst)]
    · have hmore := ih (first :: asked)
      rw [List.map_cons] at hmore
      -- Two filters in a row, one for what was asked before and one for what is asked now.
      have hbeq (a : DigestAlgorithm) : (a == first) = decide (a = first) := rfl
      rw [if_neg fun h => hfirst (hmem.mp h), hmore, List.filter_cons_of_pos (by simpa using hfirst),
        List.eraseDups_cons, List.map_cons, List.filter_filter]
      simp [hbeq]

private theorem askOnce_columns (asked : List Query) (numbers : List Nat) :
    askOnce asked (numbers.map .column) = numbers.map .column := by
  induction numbers with
  | nil => rfl
  | cons number rest ih =>
    have hcolumn : (Query.column number).isColumn = true := rfl
    rw [List.map_cons, askOnce, if_pos hcolumn, ih]

def Tokens.questionsOfKind (tokens : Tokens) (kind : VariableKind) : List Query :=
  (tokens.ofKind kind).filterMap (·.wanted.question?)

namespace Tokens

variable {tokens : Tokens}

theorem mem_questionsOfKind : query ∈ tokens.questionsOfKind kind ↔
    ∃ token ∈ tokens, token.wanted.kind = kind ∧ token.wanted.question? = some query := by
  simp [questionsOfKind, ofKind, and_assoc]

theorem askOnce_questionsOfKind {p : Variable → Bool} (hquery : query.isColumn = false)
    (hp : ∀ v, p v = true → v.kind = kind)
    (hkind : ∀ v : Variable, v.kind = kind → v.question? = if p v then some query else none) :
    askOnce [] (tokens.questionsOfKind kind) =
      if tokens.any (p ·.wanted) then [query] else [] := by
  have hall : ∀ q ∈ tokens.questionsOfKind kind,
      q = query ∧ ∃ token ∈ tokens, p token.wanted = true := fun q hq => by
    obtain ⟨token, htoken, hwanted, hquestion⟩ := mem_questionsOfKind.mp hq
    rw [hkind _ hwanted] at hquestion
    split at hquestion
    case isTrue hp => exact ⟨(Option.some.inj hquestion).symm, token, htoken, hp⟩
    case isFalse => cases hquestion
  rw [askOnce_of_forall_eq hquery fun q hq => (hall q hq).1]
  -- A token that needs the answer is the question; without one there is no question at all.
  by_cases hany : tokens.any (p ·.wanted) = true
  · obtain ⟨token, htoken, hwanted⟩ := List.any_eq_true.mp hany
    have hmem : query ∈ tokens.questionsOfKind kind :=
      mem_questionsOfKind.mpr ⟨token, htoken, hp _ hwanted, by rw [hkind _ (hp _ hwanted), if_pos hwanted]⟩
    rw [if_neg (List.ne_nil_of_mem hmem), if_pos hany]
  · have hnil : tokens.questionsOfKind kind = [] :=
      List.eq_nil_iff_forall_not_mem.mpr fun q hq => hany (List.any_eq_true.mpr (hall q hq).2)
    rw [if_pos hnil, if_neg hany]

private theorem questionsOfKind_digest : tokens.questionsOfKind .digest =
    (tokens.filterMap (Variable.digest? ·.wanted)).map .digest := by
  simp only [questionsOfKind, ofKind, List.filterMap_filter, List.map_filterMap]
  refine List.filterMap_congr fun token _ => ?_
  cases token.wanted <;> rfl

private theorem questionsOfKind_column : tokens.questionsOfKind .column =
    (tokens.filterMap (Variable.column? ·.wanted)).map .column := by
  simp only [questionsOfKind, ofKind, List.filterMap_filter, List.map_filterMap]
  refine List.filterMap_congr fun token _ => ?_
  cases token.wanted <;> rfl

theorem kind_eq_of_question? {v : Variable} (h : v.question? = some query) :
    v.kind = query.kind := by
  cases v with
  | time item field t =>
    rw [Variable.question?] at h
    split at h
    · cases h
    · exact Option.some.inj h ▸ rfl
  | _ => cases h <;> rfl

private theorem questionsOfKind_eq_nil (hkind : ∀ query : Query, query.kind ≠ kind) :
    tokens.questionsOfKind kind = [] := by
  refine List.eq_nil_iff_forall_not_mem.mpr fun query hquery => ?_
  obtain ⟨token, -, rfl, hquestion⟩ := mem_questionsOfKind.mp hquery
  exact hkind query (kind_eq_of_question? hquestion).symm

theorem askOnce_flatMap {kinds : List VariableKind} (hkinds : kinds.Nodup) :
    askOnce [] (kinds.flatMap tokens.questionsOfKind) =
      kinds.flatMap fun kind => askOnce [] (tokens.questionsOfKind kind) := by
  induction kinds with
  | nil => rfl
  | cons kind kinds ih =>
    obtain ⟨hkind, hrest⟩ := List.nodup_cons.mp hkinds
    rw [List.flatMap_cons, List.flatMap_cons, askOnce_append, ih hrest]
    -- Variables of two kinds do not ask the same.
    intro query hquery hother
    obtain ⟨kind', hmem, hquery'⟩ := List.mem_flatMap.mp hother
    obtain ⟨token, -, rfl, hquestion⟩ := mem_questionsOfKind.mp hquery
    obtain ⟨token', -, rfl, hquestion'⟩ := mem_questionsOfKind.mp hquery'
    rw [kind_eq_of_question? hquestion, ← kind_eq_of_question? hquestion'] at hkind
    exact hkind hmem

/-- Asking for all variables in the order in which they are resolved, and for nothing twice but
columns, comes to the same questions. -/
theorem questions_eq_askOnce (tokens : Tokens) :
    tokens.questions = askOnce [] (((VariableKind.resolutionOrder.flatMap tokens.ofKind).map
      (·.wanted)).filterMap (·.question?)) := by
  -- Of the kinds with one question each, only times look at more than the kind: a date can be read
  -- from a song too.
  have htime : askOnce [] (tokens.questionsOfKind .time) =
      if tokens.any (Variable.needsTimes ·.wanted) then [.times] else [] := by
    refine askOnce_questionsOfKind rfl (fun v hv => ?_) fun v hv => ?_
    · cases v <;> first | rfl | cases hv
    · cases v with
      | time item field t => cases item <;> rfl
      | _ => cases hv
  have honce {kind : VariableKind} {query : Query} (hquery : query.isColumn = false)
      (hkind : ∀ v : Variable, v.kind = kind → v.question? = some query) :
      askOnce [] (tokens.questionsOfKind kind) =
        if tokens.any (·.wanted.kind = kind) then [query] else [] :=
    @askOnce_questionsOfKind _ _ _ (fun v => v.kind = kind) hquery (fun v hv => by simpa using hv)
      fun v hv => by rw [hkind v hv, if_pos (by simpa using hv)]
  have hpicture := @honce .picture .picture rfl fun v hv => by cases v <;> first | rfl | cases hv
  have hexifTool := @honce .exifTool .exifTool rfl fun v hv => by
    cases v <;> first | rfl | cases hv
  have hsong := @honce .song .song rfl fun v hv => by cases v <;> first | rfl | cases hv
  have hdigests : askOnce [] (tokens.questionsOfKind .digest) =
      (tokens.filterMap (Variable.digest? ·.wanted)).eraseDups.map .digest := by
    rw [questionsOfKind_digest]
    simpa using askOnce_digests [] (tokens.filterMap (Variable.digest? ·.wanted))
  have hcolumns : askOnce [] (tokens.questionsOfKind .column) =
      (tokens.filterMap (Variable.column? ·.wanted)).map .column := by
    rw [questionsOfKind_column, askOnce_columns]
  -- The other kinds are read off the path or the match and ask for nothing.
  have hsilent : [VariableKind.stem, .extension, .parent, .index, .capture].flatMap
      (fun kind => askOnce [] (tokens.questionsOfKind kind)) = [] := by
    refine List.flatMap_eq_nil_iff.mpr fun kind hkind => ?_
    rw [questionsOfKind_eq_nil fun query hquery => ?_]
    · rfl
    · subst hquery
      cases query <;> simp [Query.kind] at hkind
  have horder : VariableKind.resolutionOrder =
      [.stem, .extension, .parent, .index, .capture] ++
        [.time, .digest, .picture, .exifTool, .song, .column] := rfl
  rw [List.filterMap_map, List.filterMap_flatMap]
  -- Each kind has questions of its own, so asking once goes kind by kind.
  refine Eq.trans ?_ (askOnce_flatMap (show VariableKind.resolutionOrder.Nodup by decide)).symm
  rw [horder, List.flatMap_append, hsilent, List.nil_append]
  simp only [List.flatMap_cons, List.flatMap_nil, List.append_nil, htime, hdigests, hcolumns,
    hpicture, hexifTool, hsong]
  rfl

end Tokens

-- ---------------------------------------------------------------------------
-- Looking up one variable after the other
-- ---------------------------------------------------------------------------

namespace Facts

variable {source : MetadataSource} {path : Text} {facts facts' : Facts}

theorem knows_of_learn (h : (facts.learn source path query).Answers log facts' log')
    (other : Query) : facts'.knows other = true ↔
      facts.knows other = true ∨ other = query ∧ query.isColumn = false := by
  cases query <;> simp only [learn, answers_bind, answers_pure] at h <;>
    obtain ⟨-, -, -, rfl, -⟩ := h <;> cases other
  -- Digests are told apart by their algorithms, all else by the kind of question.
  case digest.digest first _ second =>
    by_cases heq : second = first
    · simp [knows, Query.isColumn, heq]
    · simp [knows, Query.isColumn, List.lookup_cons, beq_false_of_ne heq, heq]
  all_goals simp [knows, Query.isColumn]

theorem asks_learn (source : MetadataSource) (path : Text) (facts : Facts) (query : Query) :
    Asks source [⟨query, path⟩] .none (facts.learn source path query) := by
  cases query with
  | column number => exact asks_bind_quiet (asks_note_column number path) fun _ => asks_pure _
  | _ => exact asks_bind_quiet (asks_ask rfl) fun _ => asks_pure _

private theorem lookUp_of_known {v : Variable} (hquestion : v.question? = some query)
    (h : facts.knows query = true) : facts.lookUp source path v = pure facts := by
  rw [lookUp, hquestion]
  exact if_pos h

private theorem lookUp_of_unknown {v : Variable} (hquestion : v.question? = some query)
    (h : ¬ facts.knows query = true) :
    facts.lookUp source path v = facts.learn source path query := by
  rw [lookUp, hquestion]
  exact if_neg h

theorem asks_lookUp_each {asked : List Query} (hasked : ∀ q, facts.knows q = true ↔ q ∈ asked)
    (queue : List Variable) :
    Asks source ((askOnce asked (queue.filterMap (·.question?))).map (⟨·, path⟩)) .none
      (queue.foldlM (lookUp source path) facts) := by
  induction queue generalizing facts asked with
  | nil => exact asks_pure facts
  | cons v queue ih =>
    rw [List.foldlM_cons]
    cases hquestion : v.question? with
    | none =>
      rw [List.filterMap_cons_none hquestion, lookUp, hquestion]
      exact ih hasked
    | some query =>
      rw [List.filterMap_cons_some hquestion, askOnce]
      have hlearn := asks_learn source path facts query
      -- A column is asked for again at every variable, anything else only while it is unknown.
      cases hcolumn : query.isColumn with
      | true =>
        have hunknown : ¬ facts.knows query = true := by cases query <;> cases hcolumn; exact Bool.false_ne_true
        rw [if_pos rfl, lookUp_of_unknown hquestion hunknown]
        refine asks_bind hlearn fun facts' log log' h => ih fun q => ?_
        rw [knows_of_learn h, hasked, hcolumn]
        simp
      | false =>
        rw [if_neg (by decide)]
        by_cases hmem : query ∈ asked
        · rw [if_pos hmem, lookUp_of_known hquestion ((hasked query).mpr hmem)]
          exact ih hasked
        · rw [if_neg hmem, lookUp_of_unknown hquestion (mt (hasked query).mp hmem)]
          refine asks_bind hlearn fun facts' log log' h => ih fun q => ?_
          rw [knows_of_learn h, hasked, hcolumn, List.mem_cons]
          simp [or_comm]

theorem asks_fetch (source : MetadataSource) (path : Text) (tokens : Tokens) :
    Asks source (tokens.questions.map (⟨·, path⟩)) .none (fetch source path tokens) := by
  have hasked (query : Query) : Facts.none.knows query = true ↔ query ∈ [] := by
    cases query <;> simp [knows, Facts.none]
  rw [tokens.questions_eq_askOnce]
  exact asks_lookUp_each hasked _

end Facts

end Relabel
