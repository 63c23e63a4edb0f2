import Relabel.Proofs.Pattern.Threads

/-!
# Programs of expressions

The instructions of an expression lead from its entry to what follows in just the ways of the
expression, in their order: `Expr.leads_emit`. With that a search for the expression finds its
preferred way at the first place where it has one.
-/

namespace Relabel

namespace Program

variable {p : Program}

/-- Where a search ends that goes these ways and on at the instruction behind them. -/
noncomputable def finish (p : Program) (next : Nat) (ways : List Way) : List Ending :=
  ways.flatMap fun way => behindMarks way.2 (p.endings next way.1)

@[simp] theorem finish_append (next : Nat) (first second : List Way) :
    p.finish next (first ++ second) = p.finish next first ++ p.finish next second :=
  List.flatMap_append

theorem finish_start (next : Nat) (here : Cursor) :
    p.finish next [(here, [])] = p.endings next here := by
  rw [finish, List.flatMap_singleton, behindMarks_nil]

/-- The program leads from one instruction to another in these ways and in no others. -/
def Leads (p : Program) (entry next : Nat) (ways : Cursor → List Way) : Prop :=
  ∀ here, (∀ way ∈ ways here, p.Halts next way.1) → p.Ends entry here (p.finish next (ways here))

theorem Halts.ends {address : Nat} {here : Cursor} (h : p.Halts address here) :
    p.Ends address here (p.endings address here) := by
  obtain ⟨endings, hends⟩ := h
  rwa [hends.endings_eq]

theorem Leads.refl (p : Program) (next : Nat) : p.Leads next next fun here => [(here, [])] := by
  intro here h
  rw [finish_start]
  exact (h _ List.mem_cons_self).ends

theorem finish_goOn {middle next : Nat} {ways : List Way} {more : Cursor → List Way}
    (h : ∀ way ∈ ways, p.Ends middle way.1 (p.finish next (more way.1))) :
    p.finish middle ways = p.finish next (goOn ways more) := by
  rw [finish, finish, goOn, List.flatMap_assoc]
  refine List.flatMap_congr fun way hway => ?_
  rw [(h way hway).endings_eq, finish, behindMarks, List.map_flatMap, List.flatMap_map]
  refine List.flatMap_congr fun more _ => ?_
  exact behindMarks_behindMarks ..

theorem halts_of_goOn {middle next : Nat} {ways : List Way} {more : Cursor → List Way}
    (hmore : ∀ way ∈ ways, (∀ way' ∈ more way.1, p.Halts next way'.1) →
      p.Ends middle way.1 (p.finish next (more way.1)))
    (h : ∀ way ∈ goOn ways more, p.Halts next way.1) :
    ∀ way ∈ ways, p.Ends middle way.1 (p.finish next (more way.1)) :=
  fun way hway => hmore way hway fun way' hway' =>
    h (way'.1, way'.2 ++ way.2) (mem_goOn.mpr ⟨way, hway, way', hway', rfl⟩)

theorem Leads.trans {entry middle next : Nat} {ways more : Cursor → List Way}
    (h : p.Leads entry middle ways) (h' : p.Leads middle next more) :
    p.Leads entry next fun here => goOn (ways here) more := by
  intro here hhalts
  have hends := halts_of_goOn (fun way _ => h' way.1) hhalts
  have hentry := h here fun way hway => ⟨_, hends way hway⟩
  rwa [finish_goOn hends] at hentry

-- ---------------------------------------------------------------------------
-- Single instructions
-- ---------------------------------------------------------------------------

private theorem leads_char {entry next : Nat} {accepted : CharClass}
    (h : p.instruction? entry = some (.char accepted next)) :
    p.Leads entry next (Expr.char accepted).ways := by
  rintro ⟨before, position, rest⟩ hhalts
  cases rest with
  | nil => exact ⟨1, by rw [endings?, h]; rfl⟩
  | cons c rest =>
    rw [Expr.ways_char_cons] at hhalts ⊢
    split at hhalts
    case isTrue haccepts =>
      obtain ⟨n, hn⟩ := (hhalts _ List.mem_cons_self).ends
      refine ⟨n + 1, ?_⟩
      rw [endings?, h, if_pos haccepts, finish_start]
      simp only [if_pos haccepts]
      exact hn
    case isFalse haccepts =>
      refine ⟨1, ?_⟩
      rw [endings?, h, if_neg haccepts]
      simp only [if_neg haccepts]
      rfl

private theorem leads_look {entry next : Nat} {assertion : Assertion}
    (h : p.instruction? entry = some (.look assertion next)) :
    p.Leads entry next (Expr.look assertion).ways := by
  intro here hhalts
  rw [Expr.ways] at hhalts ⊢
  split at hhalts
  case isTrue hholds =>
    obtain ⟨n, hn⟩ := (hhalts _ List.mem_cons_self).ends
    refine ⟨n + 1, ?_⟩
    rw [endings?, h, if_pos hholds, finish_start]
    simpa only [if_pos hholds] using hn
  case isFalse hholds =>
    refine ⟨1, ?_⟩
    rw [endings?, h, if_neg hholds]
    simp only [if_neg hholds]
    rfl

private theorem leads_mark {entry next slot : Nat}
    (h : p.instruction? entry = some (.mark slot next)) :
    p.Leads entry next fun here => [(here, [(slot, here.position)])] := by
  intro here hhalts
  obtain ⟨n, hn⟩ := (hhalts _ List.mem_cons_self).ends
  refine ⟨n + 1, ?_⟩
  rw [endings?, h, finish, List.flatMap_singleton]
  simp only [hn, Option.map_some]

private theorem ends_fork {address first second : Nat} {here : Cursor} {preferred others : List Ending}
    (h : p.instruction? address = some (.fork first second))
    (hfirst : p.Ends first here preferred) (hsecond : p.Ends second here others) :
    p.Ends address here (preferred ++ others) := by
  obtain ⟨n, hn⟩ := hfirst
  obtain ⟨m, hm⟩ := hsecond
  refine ⟨max n m + 1, ?_⟩
  rw [endings?, h]
  simp only [endings?_mono (Nat.le_max_left n m) hn, endings?_mono (Nat.le_max_right n m) hm,
    Option.bind_some, Option.map_some]

private theorem leads_fork {entry first second next : Nat} {preferred others : Cursor → List Way}
    (h : p.instruction? entry = some (.fork first second)) (hfirst : p.Leads first next preferred)
    (hsecond : p.Leads second next others) :
    p.Leads entry next fun here => preferred here ++ others here := by
  intro here hhalts
  rw [finish_append]
  exact ends_fork h (hfirst here fun way hway => hhalts way (List.mem_append_left _ hway))
    (hsecond here fun way hway => hhalts way (List.mem_append_right _ hway))

private theorem ends_choice {address body leave : Nat} {greedy : Bool} {here : Cursor}
    {next : Nat} {more : List Way}
    (h : p.instruction? address = some (Emitter.choice greedy body leave))
    (hmore : p.Ends body here (p.finish next more))
    (hleave : p.Ends leave here (p.finish next [(here, [])])) :
    p.Ends address here (p.finish next (inOrderOf greedy more [(here, [])])) := by
  cases greedy with
  | true => rw [inOrderOf, if_pos rfl, finish_append]; exact ends_fork h hmore hleave
  | false => rw [inOrderOf, if_neg (by decide), finish_append]; exact ends_fork h hleave hmore

private theorem leads_choice {entry body next : Nat} {greedy : Bool} {more : Cursor → List Way}
    (h : p.instruction? entry = some (Emitter.choice greedy body next))
    (hbody : p.Leads body next more) :
    p.Leads entry next fun here => inOrderOf greedy (more here) [(here, [])] := by
  intro here hhalts
  exact ends_choice h (hbody here fun way hway => hhalts way (mem_inOrderOf.mpr (.inl hway)))
    (Leads.refl p next here fun way hway => hhalts way (mem_inOrderOf.mpr (.inr hway)))

/-- A loop whose body takes a character leads on after any number of copies. -/
theorem leads_loop {again entry next : Nat} {greedy : Bool} {body : Cursor → List Way}
    (h : p.instruction? again = some (Emitter.choice greedy entry next))
    (hbody : p.Leads entry again body) (hconsuming : Consuming body) :
    p.Leads again next (starWays body greedy) := by
  intro here
  -- Behind every copy the rest of the text is shorter.
  induction hlength : here.rest.length using Nat.strongRecOn generalizing here with
  | _ length ih =>
    intro hhalts
    rw [starWays_eq hconsuming] at hhalts ⊢
    have hends : ∀ way ∈ body here,
        p.Ends again way.1 (p.finish next (starWays body greedy way.1)) :=
      halts_of_goOn
        (fun way hway => ih way.1.rest.length (hlength ▸ hconsuming here way hway) way.1 rfl)
        fun way hway => hhalts way (mem_inOrderOf.mpr (.inl hway))
    have hentry := hbody here fun way hway => ⟨_, hends way hway⟩
    rw [finish_goOn hends] at hentry
    exact ends_choice h hentry
      (Leads.refl p next here fun way hway => hhalts way (mem_inOrderOf.mpr (.inr hway)))

/-- The program has the instructions of the code from an address on. -/
def Holds (p : Program) (code : Array Instruction) (start : Nat) : Prop :=
  ∀ address, start ≤ address → address < code.size → p.instruction? address = code[address]?

theorem Holds.mono {code : Array Instruction} {start start' : Nat} (h : p.Holds code start)
    (hle : start ≤ start') : p.Holds code start' :=
  fun address hstart => h address (Nat.le_trans hle hstart)

end Program

open Program

-- ---------------------------------------------------------------------------
-- Emitters
-- ---------------------------------------------------------------------------

structure Keeps (code code' : Array Instruction) : Prop where
  grows : code.size ≤ code'.size
  same : ∀ address, address < code.size → code'[address]? = code[address]?

namespace Keeps

variable {code code' code'' : Array Instruction}

theorem refl (code : Array Instruction) : Keeps code code := ⟨Nat.le_refl _, fun _ _ => rfl⟩

theorem trans (h : Keeps code code') (h' : Keeps code' code'') : Keeps code code'' :=
  ⟨Nat.le_trans h.grows h'.grows, fun address hlt =>
    (h'.same address (Nat.lt_of_lt_of_le hlt h.grows)).trans (h.same address hlt)⟩

theorem push (code : Array Instruction) (instruction : Instruction) :
    Keeps code (code.push instruction) :=
  ⟨by simp, fun address hlt => Array.getElem?_push_lt hlt |>.trans (by simp [hlt])⟩

theorem holds {p : Program} (h : Keeps code code') {start : Nat} (hp : p.Holds code' start) :
    p.Holds code start := fun address hstart hlt =>
  (hp address hstart (Nat.lt_of_lt_of_le hlt h.grows)).trans (h.same address hlt)

end Keeps

/-- What an emitter adds leads from its entry to what follows in these ways. -/
structure Emits (emitter : Emitter) (ways : Cursor → List Way) : Prop where
  keeps : ∀ next code, Keeps code (emitter next code).2
  leads : ∀ next code (p : Program), p.Holds (emitter next code).2 code.size →
    p.Leads (emitter next code).1 next ways

private theorem holds_push {p : Program} {code : Array Instruction} {instruction : Instruction}
    (h : p.Holds (code.push instruction) code.size) : p.instruction? code.size = some instruction := by
  rw [h code.size (Nat.le_refl _) (by simp)]
  simp

namespace Emits

variable {emitter first second : Emitter} {ways firstWays secondWays : Cursor → List Way}

theorem done : Emits (fun next code => (next, code)) fun here => [(here, [])] :=
  ⟨fun _ code => .refl code, fun next _ p _ => Leads.refl p next⟩

theorem add {instruction : Nat → Instruction}
    (h : ∀ (p : Program) entry next, p.instruction? entry = some (instruction next) →
      p.Leads entry next ways) :
    Emits (fun next code => Emitter.add (instruction next) code) ways :=
  ⟨fun _ code => .push code _, fun next _ p hp => h p _ next (holds_push hp)⟩

theorem andThen (h : Emits first firstWays) (h' : Emits second secondWays) :
    Emits (fun next code => first (second next code).1 (second next code).2)
      fun here => goOn (firstWays here) secondWays := by
  refine ⟨fun next code => (h'.keeps next code).trans (h.keeps _ _), fun next code p hp => ?_⟩
  have hsecond := h'.leads next code p ((h.keeps _ _).holds hp)
  exact (h.leads _ _ p (hp.mono (h'.keeps next code).grows)).trans hsecond

theorem copies (h : Emits emitter ways) (n : Nat) :
    Emits (Emitter.copies emitter n) (copiesWays ways n) := by
  induction n with
  | zero => exact done
  | succ n ih => exact h.andThen ih

theorem fork {instruction : Nat → Nat → Instruction} {ways' : Cursor → List Way}
    (h : Emits emitter ways)
    (hfork : ∀ (p : Program) address entry next,
      p.instruction? address = some (instruction entry next) → p.Leads entry next ways →
      p.Leads address next ways') :
    Emits (fun next code =>
      Emitter.add (instruction (emitter next code).1 next) (emitter next code).2) ways' := by
  refine ⟨fun next code => (h.keeps next code).trans (.push _ _), fun next code p hp => ?_⟩
  exact hfork p _ _ next (holds_push (hp.mono (h.keeps next code).grows))
    (h.leads next code p ((Keeps.push _ _).holds hp))

theorem optionals (h : Emits emitter ways) (greedy : Bool) (n : Nat) :
    Emits (Emitter.optionals emitter greedy n) (optionalWays ways greedy n) := by
  induction n with
  | zero => exact done
  | succ n ih => exact (h.andThen ih).fork fun p address entry next => leads_choice

theorem group (h : Emits emitter ways) (number : Nat) :
    Emits (fun next code =>
      Emitter.add (.mark (2 * number) (emitter code.size (code.push (.mark (2 * number + 1) next))).1)
        (emitter code.size (code.push (.mark (2 * number + 1) next))).2)
      fun here => (ways here).map fun way =>
        (way.1, (2 * number + 1, way.1.position) :: way.2 ++ [(2 * number, here.position)]) := by
  have hclose : Emits (fun next code => Emitter.add (.mark (2 * number + 1) next) code)
      fun here => [(here, [(2 * number + 1, here.position)])] :=
    add fun p entry next => leads_mark
  have hways (here : Cursor) : goOn [(here, [(2 * number, here.position)])]
      (fun here => goOn (ways here) fun here => [(here, [(2 * number + 1, here.position)])]) =
      (ways here).map fun way =>
        (way.1, (2 * number + 1, way.1.position) :: way.2 ++ [(2 * number, here.position)]) := by
    rw [goOn, List.flatMap_singleton, goOn, List.map_flatMap, List.map_eq_flatMap]
    rfl
  rw [← funext hways]
  exact @fork _ _ (fun entry _ => .mark (2 * number) entry) _ (h.andThen hclose)
    fun p address entry next hmark hleads => (leads_mark hmark).trans hleads

theorem alt (h : Emits first firstWays) (h' : Emits second secondWays) :
    Emits (fun next code =>
      Emitter.add (.fork (first next code).1 (second next (first next code).2).1)
        (second next (first next code).2).2)
      fun here => firstWays here ++ secondWays here := by
  refine ⟨fun next code => ((h.keeps next code).trans (h'.keeps _ _)).trans (.push _ _),
    fun next code p hp => ?_⟩
  have hsecond := (Keeps.push _ _).holds hp
  have hgrows := (h.keeps next code).grows
  exact leads_fork (holds_push (hp.mono (Nat.le_trans hgrows (h'.keeps _ _).grows)))
    (h.leads next code p ((h'.keeps _ _).holds hsecond)) (h'.leads next _ p (hsecond.mono hgrows))

end Emits

section Loop

variable {emitter : Emitter} {ways : Cursor → List Way}

theorem keeps_loop (h : Emits emitter ways) (greedy : Bool) (next : Nat)
    (code : Array Instruction) : Keeps code (Emitter.loop emitter greedy next code).2.2 := by
  have hbody := (Keeps.push code (.fork next next)).trans (h.keeps code.size _)
  refine ⟨by simpa [Emitter.loop] using hbody.grows, fun address hlt => ?_⟩
  rw [← hbody.same address hlt]
  exact Array.getElem?_setIfInBounds_ne (Nat.ne_of_gt hlt)

theorem leads_loop (h : Emits emitter ways) (hconsuming : Consuming ways) {greedy : Bool}
    {next : Nat} {code : Array Instruction} {p : Program}
    (hp : p.Holds (Emitter.loop emitter greedy next code).2.2 code.size) :
    p.Leads (Emitter.loop emitter greedy next code).2.1 next (starWays ways greedy) ∧
      p.Leads (Emitter.loop emitter greedy next code).1 next
        fun here => goOn (ways here) (starWays ways greedy) := by
  have hbody := h.keeps code.size (code.push (.fork next next))
  have hagain : code.size < (emitter code.size (code.push (.fork next next))).2.size :=
    Nat.lt_of_lt_of_le (by simp) hbody.grows
  have hchoice : p.instruction? code.size = some (Emitter.choice greedy
      (emitter code.size (code.push (.fork next next))).1 next) := by
    rw [hp code.size (Nat.le_refl _) (by simpa [Emitter.loop] using hagain), Emitter.loop]
    exact Array.getElem?_setIfInBounds_self_of_lt hagain
  have hleads := h.leads code.size (code.push (.fork next next)) p fun address hstart hlt => by
    have hne : code.size ≠ address := by
      rw [Array.size_push] at hstart
      omega
    rw [hp address (by rw [Array.size_push] at hstart; omega) (by simpa [Emitter.loop] using hlt)]
    exact Array.getElem?_setIfInBounds_ne hne
  have hstar := Program.leads_loop hchoice hleads hconsuming
  exact ⟨hstar, hleads.trans hstar⟩

theorem emits_unbounded (h : Emits emitter ways) (hconsuming : Consuming ways) (greedy : Bool)
    (least : Nat) :
    Emits (Emitter.unbounded emitter false greedy least)
      fun here => goOn (copiesWays ways least here) (starWays ways greedy) := by
  cases least with
  | zero =>
    have hways (here : Cursor) : goOn (copiesWays ways 0 here) (starWays ways greedy) =
        starWays ways greedy here := goOn_start here _
    simp only [hways]
    exact ⟨fun next code => keeps_loop h greedy next code,
      fun next code p hp => (leads_loop h hconsuming hp).1⟩
  | succ n =>
    -- The loop stands in for the last required copy, so one copy fewer comes before it.
    simp only [copiesWays_succ, goOn_assoc]
    have hcopies := h.copies n
    refine ⟨fun next code => (keeps_loop h greedy next code).trans (hcopies.keeps _ _),
      fun next code p hp => ?_⟩
    have hloop := keeps_loop h greedy next code
    exact (hcopies.leads _ _ p (hp.mono hloop.grows)).trans
      (leads_loop h hconsuming ((hcopies.keeps _ _).holds hp)).2

end Loop

/-- An expression is emitted as its ways say. -/
theorem Expr.emits {e : Expr} (h : e.Tidy) : Emits e.emit e.ways := by
  induction e with
  | empty => exact .done
  | char accepted => exact .add fun p entry next => leads_char
  | look assertion => exact .add fun p entry next => leads_look
  | group number body ih => exact (ih h).group number
  | seq first second ih ih' => exact (ih h.1).andThen (ih' h.2)
  | alt first second ih ih' => exact (ih h.1).alt (ih' h.2)
  | repeated body least most greedy ih =>
    cases most with
    | some most => exact ((ih h).copies least).andThen ((ih h).optionals greedy (most - least))
    | none =>
      have hemits := emits_unbounded (ih h.1) (body.consuming_ways h.2) greedy least
      rw [← h.2] at hemits
      exact hemits

def endingsOf (ways : List Way) : List Ending := ways.map fun way => (way.1.position, way.2)

theorem Expr.ends_program {e : Expr} (h : e.Tidy) (here : Cursor) :
    e.program.Ends e.program.start here (endingsOf (e.ways here)) := by
  have hemits := e.emits h
  have haccept (here : Cursor) : e.program.Ends 0 here [(here.position, [])] := by
    refine ⟨1, ?_⟩
    have hinstruction : e.program.instruction? 0 = some .accept :=
      (hemits.keeps 0 #[.accept]).same 0 (by decide)
    rw [endings?, hinstruction]
  have hends := hemits.leads 0 #[.accept] e.program (fun _ _ _ => rfl) here
    fun way _ => ⟨_, haccept way.1⟩
  have hfinish : e.program.finish 0 (e.ways here) = endingsOf (e.ways here) := by
    rw [finish, endingsOf, List.map_eq_flatMap]
    exact List.flatMap_congr fun way _ => by rw [(haccept way.1).endings_eq]; rfl
  rwa [hfinish] at hends

end Relabel
