import Relabel.Proofs.Template.Tokens

/-!
# Tokens and their values

The values come in the order in which they are put into a name, kind by kind. Every token has one.
-/

namespace Relabel.Tokens

variable {tokens : Tokens} {token : Token} {valueOf : Variable → Text} {numbers : List Int}

theorem getElem?_indexes {index : Index} {slot : Nat}
    (hslot : (tokens.ofKind .index)[slot]? = some token) (hwanted : token.wanted = .index index) :
    tokens.indexes[slot]? = some index := by
  have hmap := congrArg (·[slot]?) (map_wanted_ofKind_index tokens)
  simpa [hslot, hwanted] using hmap.symm

theorem mem_values_of_index {index : Index} {slot : Nat}
    (hslot : (tokens.ofKind .index)[slot]? = some token) (hwanted : token.wanted = .index index)
    (hnumber : numbers[slot]? = some n) :
    (token.text, index.render n) ∈ tokens.values valueOf numbers := by
  have hindex := getElem?_indexes hslot hwanted
  refine List.mem_flatMap.mpr ⟨.index, VariableKind.mem_resolutionOrder .index, ?_⟩
  rw [if_pos rfl]
  refine List.mem_map.mpr ⟨(token, index.render n), List.mem_iff_getElem?.mpr ⟨slot, ?_⟩, rfl⟩
  refine List.getElem?_zip_eq_some.mpr ⟨hslot, ?_⟩
  rw [List.getElem?_zipWith, hindex, hnumber]

theorem exists_token_of_mem_values (h : v ∈ tokens.values valueOf numbers) :
    ∃ token ∈ tokens, v.1 = token.text := by
  obtain ⟨kind, -, h⟩ := List.mem_flatMap.mp h
  split at h
  case isTrue =>
    obtain ⟨⟨token, text⟩, hmem, rfl⟩ := List.mem_map.mp h
    exact ⟨token, (List.mem_filter.mp (List.of_mem_zip hmem).1).1, rfl⟩
  case isFalse =>
    obtain ⟨token, hmem, rfl⟩ := List.mem_map.mp h
    exact ⟨token, (List.mem_filter.mp hmem).1, rfl⟩

theorem exists_mem_values (hnumbers : numbers.length = tokens.indexes.length)
    (htoken : token ∈ tokens) : ∃ value, (token.text, value) ∈ tokens.values valueOf numbers := by
  have hmem : token ∈ tokens.ofKind token.wanted.kind := List.mem_filter.mpr ⟨htoken, by simp⟩
  by_cases hkind : token.wanted.kind = .index
  · obtain ⟨index, hwanted⟩ : ∃ index, token.wanted = .index index := by
      cases hwanted : token.wanted with
      | index index => exact ⟨index, rfl⟩
      | _ => rw [hwanted] at hkind; cases hkind
    rw [hkind] at hmem
    -- An index finds its number by its place among the indexes.
    obtain ⟨slot, hslot⟩ := List.mem_iff_getElem?.mp hmem
    obtain ⟨hlt, -⟩ := List.getElem?_eq_some_iff.mp (getElem?_indexes hslot hwanted)
    obtain ⟨n, hn⟩ : ∃ n, numbers[slot]? = some n :=
      ⟨_, List.getElem?_eq_getElem (hnumbers ▸ hlt)⟩
    exact ⟨_, mem_values_of_index hslot hwanted hn⟩
  · refine ⟨valueOf token.wanted, List.mem_flatMap.mpr
      ⟨token.wanted.kind, VariableKind.mem_resolutionOrder _, ?_⟩⟩
    rw [if_neg hkind]
    exact List.mem_map.mpr ⟨token, hmem, rfl⟩

end Relabel.Tokens
