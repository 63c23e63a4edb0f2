import Relabel.Disk.Node
import Relabel.Proofs.Path.Components

/-!
# What lies below a directory

The entries of a directory as a list, and induction on a directory tree by what its directories
hold. In a tree that a disk can have the names are file names, and no two entries of a directory
have the same one.
-/

namespace Relabel

def Listing.toList : Listing → List (Text × Node)
  | .nil => []
  | .cons name node rest => (name, node) :: rest.toList

namespace Node

inductive WellNamed : Node → Prop
  | file (content : ByteArray) (stamps : Stamps) : WellNamed (.file content stamps)
  | link (target : Text) (stamps : Stamps) : WellNamed (.link target stamps)
  | directory (entries : Listing) (stamps : Stamps)
      (names : ∀ child ∈ entries.toList, Path.IsFileName child.1)
      (distinct : (entries.toList.map Prod.fst).Nodup)
      (nodes : ∀ child ∈ entries.toList, WellNamed child.2) :
      WellNamed (.directory entries stamps)

end Node

/-- What passes from the entries of a directory on to the directory holds of every tree. -/
theorem Node.induction {motive : Node → Prop}
    (file : ∀ content stamps, motive (.file content stamps))
    (link : ∀ target stamps, motive (.link target stamps))
    (directory : ∀ entries stamps, (∀ child ∈ entries.toList, motive child.2) →
      motive (.directory entries stamps)) (node : Node) : motive node :=
  @Node.rec motive (fun entries => ∀ child ∈ entries.toList, motive child.2) file link directory
    (fun _ h => absurd h List.not_mem_nil)
    (fun _ _ _ hnode hrest => List.forall_mem_cons.mpr ⟨hnode, hrest⟩) node

theorem Listing.find?_eq_some_iff {entries : Listing}
    (h : (entries.toList.map Prod.fst).Nodup) {name : Text} {node : Node} :
    entries.find? name = some node ↔ (name, node) ∈ entries.toList := by
  cases entries with
  | nil => simp [find?, toList]
  | cons other held rest =>
    obtain ⟨hother, hrest⟩ := List.nodup_cons.mp h
    simp only [find?, toList, List.mem_cons, Prod.mk.injEq]
    split
    case isTrue hname =>
      subst hname
      have hnot : (name, node) ∉ rest.toList := fun hmem =>
        hother (List.mem_map.mpr ⟨(name, node), hmem, rfl⟩)
      simp [hnot, eq_comm]
    case isFalse hname =>
      rw [find?_eq_some_iff hrest]
      simp [hname]

end Relabel
