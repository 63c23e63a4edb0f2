import Mathlib.Data.List.TakeDrop
import Relabel.Proofs.Toml.Spelling

/-!
# Reading entries

A document without headers, in which every line is a bare key with a value that is spelled on it, is
read as the table of its entries, as long as no key comes twice (`Entries.read?_eq`).
-/

namespace Relabel

namespace TomlReader

def IsBareKey (key : Text) : Prop := key ≠ [] ∧ key.all isBare = true

instance (key : Text) : Decidable (IsBareKey key) := inferInstanceAs (Decidable (_ ∧ _))

/-- The line of an entry. -/
def entry (key spelling : Text) : Text := key ++ " = ".toList ++ spelling ++ ['\n']

inductive Entries : Text → TomlTable → Prop
  | nil : Entries [] []
  | cons (bare : IsBareKey key) (spelled : Toml.Spelled spelling value)
      (rest : Entries text table) : Entries (entry key spelling ++ text) ((key, value) :: table)

theorem IsBareKey.exists_cons (h : IsBareKey key) :
    ∃ c cs, key = c :: cs ∧ isBare c = true := by
  obtain ⟨c, cs, rfl⟩ := List.exists_cons_of_ne_nil h.1
  exact ⟨c, cs, rfl, List.all_eq_true.mp h.2 c List.mem_cons_self⟩

theorem Entries.single (bare : IsBareKey key) (spelled : Toml.Spelled spelling value) :
    Entries (entry key spelling) [(key, value)] := by
  simpa using Entries.cons bare spelled .nil

theorem Entries.append (h : Entries text table) (h' : Entries text' table') :
    Entries (text ++ text') (table ++ table') := by
  induction h with
  | nil => exact h'
  | cons bare spelled rest ih =>
    rw [List.append_assoc]
    exact .cons bare spelled ih

private theorem isBare_apart (h : isBare c = true) :
    ∀ d ∈ [' ', '\t', '#', '\n', '\r', '"', '\'', '[', '\uFEFF'], c ≠ d :=
  ne_of_all_not (by decide) h

theorem stops_isBlank_of_isBare (h : isBare c = true) (rest : Text) :
    Stops TomlQuoted.isBlank (c :: rest) := by
  have hapart := isBare_apart h
  exact stops_cons (TomlQuoted.isBlank_eq_false (hapart _ (by simp)) (hapart _ (by simp))) rest

theorem skipAll_of_isBare (h : isBare c = true) (rest : Text) :
    skipAll (c :: rest) = c :: rest := by
  have hapart := isBare_apart h
  have hcomment : c ≠ '#' := hapart _ (by simp)
  have hend : TomlQuoted.afterLineEnd? (c :: rest) = none := by
    unfold TomlQuoted.afterLineEnd?
    split
    case h_1 heq => exact absurd (List.cons.inj heq).1 (hapart _ (by simp))
    case h_2 heq => exact absurd (List.cons.inj heq).1 (hapart _ (by simp))
    case h_3 => rfl
  simp [skipAll, skipLines, skipBlanks_of_stops (stops_isBlank_of_isBare h rest), skipComment,
    hcomment, hend]

private theorem readPart?_bare (h : IsBareKey key) {rest : Text} (hrest : Stops isBare rest) :
    readPart? (key ++ rest) = some (key, rest) := by
  obtain ⟨c, cs, rfl, hc⟩ := h.exists_cons
  have hapart := isBare_apart hc
  have htake : (c :: (cs ++ rest)).takeWhile isBare = c :: cs :=
    takeWhile_append_of_stops h.2 hrest
  have hdrop : (c :: (cs ++ rest)).dropWhile isBare = rest := dropWhile_append_of_stops h.2 hrest
  simp [readPart?, hapart, htake, hdrop]

private theorem readKeyOf?_bare (h : IsBareKey key) (rest : Text) :
    readKeyOf? '=' (key ++ " =".toList ++ rest) = some ([key], rest) := by
  obtain ⟨c, cs, rfl, hc⟩ := h.exists_cons
  have hstops : Stops isBare (" =".toList ++ rest) := stops_cons (by decide) _
  have hpart := readPart?_bare h hstops
  rw [readKeyOf?, readKey?, List.append_assoc, List.cons_append,
    skipBlanks_of_stops (stops_isBlank_of_isBare hc _), ← List.cons_append, hpart]
  rfl

private theorem endLine?_lineEnd (rest : Text) : endLine? ('\n' :: rest) = some rest := rfl

end TomlReader

namespace TomlTable

theorem find?_eq_none_iff : find? key table = none ↔ key ∉ table.map Prod.fst := by
  rw [find?, List.lookup_eq_none_iff, List.mem_map, not_exists]
  refine forall_congr' fun entry => ?_
  rw [not_and, bne_iff_ne, ne_comm]

theorem set_of_find?_eq_none (h : find? key table = none) (value : Toml) :
    set key value table = table ++ [(key, value)] := by
  rw [find?_eq_none_iff] at h
  induction table with
  | nil => rfl
  | cons entry rest ih =>
    obtain ⟨hne, hrest⟩ := not_or.mp (List.mem_cons.not.mp h)
    rw [set, if_neg hne, ih hrest, List.cons_append]

end TomlTable

namespace TomlReader

theorem readLine?_entry (bare : IsBareKey key) (spelled : Toml.Spelled spelling value)
    (hnew : TomlTable.find? key root = none) (rest : Text) :
    readLine? ⟨root, []⟩ (entry key spelling ++ rest) =
      some (⟨root ++ [(key, value)], []⟩, rest) := by
  have hentry : entry key spelling ++ rest =
      key ++ " =".toList ++ ' ' :: (spelling ++ '\n' :: rest) := by
    simp [entry]
  have hkey := readKeyOf?_bare bare (' ' :: (spelling ++ '\n' :: rest))
  have hvalue (steps : Nat) := readValue?_of_spelled spelled rest (Nat.succ_pos steps)
  have hadded : TomlTable.atHeader (TomlTable.addEntry value [key]) [] root =
      some (root ++ [(key, value)]) := by
    simp [TomlTable.atHeader, TomlTable.addEntry, hnew, TomlTable.set_of_find?_eq_none]
  rw [hentry]
  obtain ⟨c, cs, rfl, hc⟩ := bare.exists_cons
  have hapart := isBare_apart hc
  rw [readLine?]
  · simp only [hkey, Option.bind_eq_bind, Option.bind_some, hvalue, hadded, endLine?_lineEnd]
    rfl
  all_goals exact fun _ heq => hapart '[' (by simp) (List.cons.inj heq).1

theorem Entries.readLines?_eq (h : Entries text table) (hsteps : text.length < steps)
    (hkeys : ((root ++ table).map Prod.fst).Nodup) :
    readLines? steps ⟨root, []⟩ text = some ⟨root ++ table, []⟩ := by
  -- The table that has been read so far grows with each line.
  induction h generalizing steps root with
  | nil =>
    cases steps with
    | zero => cases hsteps
    | succ steps =>
      have hskip : skipAll [] = [] := rfl
      rw [readLines?, hskip, List.append_nil]
  | @cons key spelling value text table bare spelled rest ih =>
    cases steps with
    | zero => cases hsteps
    | succ steps =>
    have hnew : TomlTable.find? key root = none := by
      rw [TomlTable.find?_eq_none_iff]
      intro hmem
      rw [List.map_append] at hkeys
      exact (List.nodup_append.mp hkeys).2.2 key hmem key (by simp) rfl
    have hlater : text.length < steps := by
      simp [entry] at hsteps
      omega
    have hline := readLine?_entry bare spelled hnew text
    have hskip : skipAll (entry key spelling ++ text) = entry key spelling ++ text := by
      obtain ⟨c, cs, rfl, hc⟩ := bare.exists_cons
      exact skipAll_of_isBare hc _
    have hrest : readLines? steps ⟨root ++ [(key, value)], []⟩ text =
        some ⟨root ++ [(key, value)] ++ table, []⟩ := ih hlater (by simpa using hkeys)
    rw [readLines?, hskip]
    split
    case h_1 hnil => simp [entry] at hnil
    case h_2 => simpa [hline] using hrest

theorem Entries.read?_eq (h : Entries text table) (hkeys : (table.map Prod.fst).Nodup) :
    TomlTable.read? text = some table := by
  have hmark : withoutMark text = text := by
    cases h with
    | nil => rfl
    | cons bare spelled rest =>
      obtain ⟨c, cs, rfl, hc⟩ := bare.exists_cons
      have hapart := isBare_apart hc
      unfold withoutMark
      split
      case h_1 heq => exact absurd (List.cons.inj heq).1 (hapart _ (by simp))
      case h_2 => rfl
  have hlines : readLines? (text.length + 1) ⟨[], []⟩ text = some ⟨table, []⟩ :=
    h.readLines?_eq (Nat.lt_succ_self _) hkeys
  simp [TomlTable.read?, hmark, hlines]

end TomlReader

end Relabel
