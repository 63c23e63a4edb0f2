/-!
# Stable sorting

A list is stably sorted when its items stand by their order and items that compare equal stand as
they came. Sorting by merging does so wherever the order is consistent, and that has to be known of
the items of the list only.
-/

namespace Relabel

/-- `sorted` holds the items by their order, and those that compare equal by the places that they
have in `items`. -/
def StablySorted (order : α → α → Ordering) (items sorted : List α) : Prop :=
  ∃ placed : List (α × Nat), placed.Perm items.zipIdx ∧ placed.map (·.1) = sorted ∧
    placed.Pairwise fun a b => order a.1 b.1 = .lt ∨ order a.1 b.1 = .eq ∧ a.2 < b.2

/-- On the items the order turns round when it is looked at from the other side, and it can be
chained. -/
structure ConsistentOn (order : α → α → Ordering) (items : List α) : Prop where
  swap : ∀ a ∈ items, ∀ b ∈ items, order a b = (order b a).swap
  chain : ∀ a ∈ items, ∀ b ∈ items, ∀ c ∈ items,
    (order a b).isLE → (order b c).isLE → (order a c).isLE

section

variable {order : α → α → Ordering} {items sorted : List α}

theorem StablySorted.perm (h : StablySorted order items sorted) : sorted.Perm items := by
  obtain ⟨placed, hperm, rfl, -⟩ := h
  simpa using hperm.map (·.1)

theorem StablySorted.pairwise (h : StablySorted order items sorted) :
    sorted.Pairwise fun a b => (order a b).isLE := by
  obtain ⟨placed, -, rfl, hpairwise⟩ := h
  refine List.pairwise_map.mpr (hpairwise.imp ?_)
  rintro a b (hlt | ⟨heq, -⟩)
  · simp [hlt]
  · simp [heq]

theorem StablySorted.le_of_not_isLE {p q : Nat} (h : StablySorted order items sorted)
    (hp : sorted[p]? = some a) (hq : sorted[q]? = some b) (hnot : (order b a).isLE = false) :
    p ≤ q := by
  obtain ⟨hltp, rfl⟩ := List.getElem?_eq_some_iff.mp hp
  obtain ⟨hltq, rfl⟩ := List.getElem?_eq_some_iff.mp hq
  refine Nat.le_of_not_lt fun hlt => ?_
  have hle := List.pairwise_iff_getElem.mp h.pairwise q p hltq hltp hlt
  rw [hnot] at hle
  exact Bool.false_ne_true hle

theorem StablySorted.filter_eq {p : α → Bool} (h : StablySorted order items sorted)
    (hp : ∀ a ∈ items, ∀ b ∈ items, p a = true → p b = true → order a b = .eq) :
    sorted.filter p = items.filter p := by
  obtain ⟨placed, hperm, rfl, hpairwise⟩ := h
  have hmem {w : α × Nat} (hw : w ∈ placed) : w.1 ∈ items :=
    List.fst_mem_of_mem_zipIdx (hperm.subset hw)
  -- The places of the class go up in both lists.
  have hplaced : (placed.filter (p ·.1)).Pairwise fun a b => a.2 < b.2 := by
    refine (hpairwise.filter _).imp_of_mem fun {a b} ha hb hab => ?_
    obtain ⟨ha, hpa⟩ := List.mem_filter.mp ha
    obtain ⟨hb, hpb⟩ := List.mem_filter.mp hb
    have heq := hp a.1 (hmem ha) b.1 (hmem hb) hpa hpb
    simpa [heq] using hab
  have hitems : (items.zipIdx.filter (p ·.1)).Pairwise fun a b => a.2 < b.2 := by
    refine List.Pairwise.filter _ (List.pairwise_map.mp ?_)
    rw [List.zipIdx_map_snd]
    exact List.pairwise_lt_range'
  have hsame : placed.filter (p ·.1) = items.zipIdx.filter (p ·.1) :=
    (hperm.filter _).eq_of_pairwise (fun a b _ _ hab hba => absurd hab (by omega)) hplaced hitems
  have hmap := congrArg (List.map Prod.fst) hsame
  rw [← List.zipIdx_map_fst 0 items, List.filter_map, List.filter_map]
  exact hmap

theorem StablySorted.map {items sorted : List β} (f : β → α)
    (h : StablySorted (fun a b => order (f a) (f b)) items sorted) :
    StablySorted order (items.map f) (sorted.map f) := by
  obtain ⟨placed, hperm, rfl, hpairwise⟩ := h
  refine ⟨placed.map fun w => (f w.1, w.2), ?_, by simp, List.pairwise_map.mpr hpairwise⟩
  rw [List.zipIdx_map]
  exact hperm.map _

theorem stablySorted_mergeSort [Std.TransCmp order] (items : List α) :
    StablySorted order items (items.mergeSort fun a b => (order a b).isLE) := by
  -- The items are sorted together with their places, and no two places are the same.
  let le := List.zipIdxLE fun a b => (order a b).isLE
  have hperm := List.mergeSort_perm items.zipIdx le
  refine ⟨items.zipIdx.mergeSort le, hperm, List.mergeSort_zipIdx, ?_⟩
  have hsorted : (items.zipIdx.mergeSort le).Pairwise (le · ·) := by
    refine List.pairwise_mergeSort (List.zipIdxLE_trans fun a b c => ?_)
      (List.zipIdxLE_total fun a b => ?_) _
    · exact Std.TransCmp.isLE_trans
    · rw [@Std.OrientedCmp.eq_swap _ order _ b a]
      cases order a b <;> rfl
  have hplaces : (items.zipIdx.mergeSort le).Pairwise fun a b => a.2 ≠ b.2 := by
    refine List.pairwise_map.mp ((hperm.map Prod.snd).nodup_iff.mpr ?_)
    rw [List.zipIdx_map_snd]
    exact List.nodup_range'
  refine (hsorted.and hplaces).imp ?_
  rintro a b ⟨hle, hne⟩
  have hswap := @Std.OrientedCmp.eq_swap _ order _ b.1 a.1
  cases horder : order a.1 b.1 with
  | lt => exact .inl rfl
  | eq =>
    have hplace : a.2 ≤ b.2 := by simpa [le, List.zipIdxLE, hswap, horder] using hle
    exact .inr ⟨rfl, by omega⟩
  | gt => simp [le, List.zipIdxLE, horder] at hle

theorem ConsistentOn.stablySorted (h : ConsistentOn order items) :
    StablySorted order items (items.mergeSort fun a b => (order a b).isLE) := by
  let within (a b : { a // a ∈ items }) : Ordering := order a b
  have htrans : Std.TransCmp within :=
    { eq_swap := fun {a b} => h.swap a a.2 b b.2
      isLE_trans := fun {a b c} => h.chain a a.2 b b.2 c c.2 }
  have hmap : (items.attach.mergeSort fun a b => (within a b).isLE).map Subtype.val =
      items.mergeSort fun a b => (order a b).isLE := by
    rw [@List.map_mergeSort _ _ _ (fun a b => (order a b).isLE) Subtype.val _ fun _ _ _ _ => rfl,
      List.attach_map_subtype_val]
  have hsorted : StablySorted order (items.attach.map Subtype.val)
      ((items.attach.mergeSort fun a b => (within a b).isLE).map Subtype.val) :=
    (@stablySorted_mergeSort _ within htrans items.attach).map Subtype.val
  rwa [hmap, List.attach_map_subtype_val] at hsorted

theorem ConsistentOn.reversed (h : ConsistentOn order items) :
    ConsistentOn (fun a b => (order a b).swap) items where
  swap := fun a ha b hb => congrArg Ordering.swap (h.swap a ha b hb)
  chain := fun a ha b hb c hc hab hbc => by
    rw [← h.swap b hb a ha] at hab
    rw [← h.swap c hc b hb] at hbc
    rw [← h.swap c hc a ha]
    exact h.chain c hc b hb a ha hbc hab

end

end Relabel
