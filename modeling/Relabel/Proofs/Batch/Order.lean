import Relabel.Batch.Order

/-!
# Parents first

The order by depth is stable: it looks at nothing but base directories, and a batch that is in
order already stays as it is.
-/

namespace Relabel

def Entry.mayPrecede (a b : Entry) : Bool := Path.depth a.baseDir ≤ Path.depth b.baseDir

theorem pairwise_parentsFirst (entries : List Entry) :
    (parentsFirst entries).Pairwise (Entry.mayPrecede · ·) := by
  refine List.pairwise_mergeSort (fun a b c hab hbc => ?_) (fun a b => ?_) entries
  · simp only [Entry.mayPrecede, decide_eq_true_eq] at *
    omega
  · simp only [Entry.mayPrecede, Bool.or_eq_true, decide_eq_true_eq]
    omega

theorem parentsFirst_of_pairwise (h : entries.Pairwise (Entry.mayPrecede · ·)) :
    parentsFirst entries = entries :=
  List.mergeSort_of_pairwise h

theorem parentsFirst_of_map_baseDir {ordered : List Entry}
    (h : entries.map (·.baseDir) = (parentsFirst ordered).map (·.baseDir)) :
    parentsFirst entries = entries := by
  have hpairwise : ((parentsFirst ordered).map (·.baseDir)).Pairwise
      fun a b => Path.depth a ≤ Path.depth b :=
    List.pairwise_map.mpr ((pairwise_parentsFirst ordered).imp fun hab => by
      simpa [Entry.mayPrecede] using hab)
  rw [← h, List.pairwise_map] at hpairwise
  exact parentsFirst_of_pairwise (hpairwise.imp fun hab => by simpa [Entry.mayPrecede] using hab)

@[simp] theorem parentsFirst_parentsFirst (entries : List Entry) :
    parentsFirst (parentsFirst entries) = parentsFirst entries :=
  parentsFirst_of_pairwise (pairwise_parentsFirst entries)

@[simp] theorem length_parentsFirst (entries : List Entry) :
    (parentsFirst entries).length = entries.length :=
  List.length_mergeSort entries

theorem map_parentsFirst {f : Entry → Entry} (hf : ∀ e, (f e).baseDir = e.baseDir)
    (entries : List Entry) : (parentsFirst entries).map f = parentsFirst (entries.map f) :=
  List.map_mergeSort fun a _ b _ => by simp [hf]

end Relabel
