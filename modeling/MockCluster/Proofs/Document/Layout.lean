import MockCluster.Document.Layout
import MockCluster.Proofs.Json.Objects

/-!
The text of a document, one member to a line, read back.
-/

namespace MockCluster.Document

open Json (Scan Tree WholeMembers scan)
open Json.Scan

theorem layOut_eq {members : Members} (hne : members ≠ []) :
    layOut members =
      '\x7b' :: (spacedMembers ['\n', ' ', ' '] [' '] members ++ ['\n', '\x7d', '\n']) := by
  have hlines : ∀ {members : Members}, members ≠ [] →
      '\n' :: joinLines (members.map line) =
        spacedMembers ['\n', ' ', ' '] [' '] members := by
    intro members hne
    induction members with
    | nil => exact absurd rfl hne
    | cons member rest ih =>
        cases rest with
        | nil => rfl
        | cons next rest =>
            rw [spacedMembers, ← ih (List.cons_ne_nil _ _)]
            simp [joinLines, line]
  cases members with
  | nil => exact absurd rfl hne
  | cons member rest =>
      rw [← hlines hne, List.cons_append]
      rfl

theorem run_layOut {members : Members} (hwhole : WholeMembers members) :
    ∃ tree after, Tree.Shows tree (.object members) ∧
      init.run (layOut members) = ⟨after, [], .finished tree none⟩ := by
  rcases eq_or_ne members [] with rfl | hne
  · exact ⟨.object 0 [] (.closed 2), 3, .object .nil, rfl⟩
  · have hlead : ∀ c ∈ ['\n', ' ', ' '], isBlank c = true := by simp [isBlank]
    have hgap : ∀ c ∈ [' '], isBlank c = true := by simp [isBlank]
    obtain ⟨entries, after, hshows, hrun⟩ :=
      run_members hlead hgap hne (readable_members members hwhole) 1 0 [] true
    have hopened : init.step '\x7b' = ⟨1, [], .key 0 [] true⟩ := rfl
    have hblank : (⟨after, [], .afterMember 0 (entries.reverse ++ [])⟩ : Scan).step '\n' =
        ⟨after + 1, [], .afterMember 0 (entries.reverse ++ [])⟩ := rfl
    refine ⟨.object 0 entries (.closed (after + 2)), after + 3, .object hshows, ?_⟩
    rw [layOut_eq hne, run_cons, hopened, hrun _ _ delimits_newline, hblank, run_cons,
      step_closeObject, List.append_nil, List.reverse_reverse]
    rfl

/-- The text of a document is a single value that shows its members. -/
theorem scan_layOut {members : Members} (hwhole : WholeMembers members) :
    ∃ tree, Tree.Shows tree (.object members) ∧
      scan (String.ofList (layOut members)) = (tree, none) := by
  obtain ⟨tree, after, hshows, hrun⟩ := run_layOut hwhole
  refine ⟨tree, hshows, ?_⟩
  rw [scan, String.toList_ofList, hrun]
  rfl

end MockCluster.Document
