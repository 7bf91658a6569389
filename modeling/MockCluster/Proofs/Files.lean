import Mathlib.Data.List.Basic
import MockCluster.Files.Tree

/-!
What a change of one regular file leaves as it was: all other entries, and where every path leads.
-/

namespace MockCluster

namespace FileTree

theorem find?_set {tree : FileTree} {location other : FileLocation} {bytes : ByteArray}
    (h : tree.find? location ≠ some .directory) :
    (tree.set location (.file bytes)).find? other =
      if other = location then some (.file bytes) else tree.find? other := by
  simp only [find?, set, KeyedList.lookup_put] at h ⊢
  split
  next hother =>
    by_cases heq : other = location
    · subst heq
      exact absurd (if_pos hother) h
    · rw [if_neg heq]
  next => rfl

theorem find?_erase {tree : FileTree} {location other : FileLocation}
    (h : tree.find? location ≠ some .directory) :
    (tree.erase location).find? other =
      if other = location then none else tree.find? other := by
  simp only [find?, erase, KeyedList.lookup_filter_ne] at h ⊢
  split
  next hother =>
    by_cases heq : other = location
    · subst heq
      exact absurd (if_pos hother) h
    · rw [if_neg heq]
  next => rfl

/-- The trees have the same directories, so that paths lead to the same places. -/
structure SameDirectories (before after : FileTree) : Prop where
  workingDirectory_eq : after.workingDirectory = before.workingDirectory
  directory_iff : ∀ location,
    after.find? location = some .directory ↔ before.find? location = some .directory

namespace SameDirectories

variable {first second third : FileTree}

theorem refl (tree : FileTree) : SameDirectories tree tree := ⟨rfl, fun _ => Iff.rfl⟩

theorem symm (h : SameDirectories first second) : SameDirectories second first :=
  ⟨h.workingDirectory_eq.symm, fun location => (h.directory_iff location).symm⟩

theorem trans (h : SameDirectories first second) (h' : SameDirectories second third) :
    SameDirectories first third :=
  ⟨h'.workingDirectory_eq.trans h.workingDirectory_eq,
    fun location => (h'.directory_iff location).trans (h.directory_iff location)⟩

theorem follow_eq_ok (h : SameDirectories first second) {here location : FileLocation}
    {names : List String} (hfollow : first.follow here names = .ok location) :
    second.follow here names = .ok location := by
  induction names generalizing here with
  | nil => exact hfollow
  | cons name rest ih =>
      unfold follow at hfollow ⊢
      split at hfollow
      · cases hfollow
      · cases hfollow
      · next hdirectory =>
          rw [(h.directory_iff here).2 hdirectory]
          split at hfollow
          · cases hfollow
          · next hlength =>
              rw [if_neg hlength]
              exact ih hfollow

theorem map_follow_eq_ok {α : Type} (h : SameDirectories first second) {here : FileLocation}
    {names : List String} {f : FileLocation → α} {a : α}
    (hmap : (first.follow here names).map f = .ok a) :
    (second.follow here names).map f = .ok a := by
  cases hfollow : first.follow here names with
  | error fault =>
      rw [hfollow] at hmap
      cases hmap
  | ok location =>
      rw [hfollow] at hmap
      rw [h.follow_eq_ok hfollow]
      exact hmap

theorem locate_eq_ok (h : SameDirectories first second) {path : String}
    {place : FileLocation × Bool} (hlocate : first.locate path = .ok place) :
    second.locate path = .ok place := by
  have hbelow : second.belowWorkingDirectory = first.belowWorkingDirectory := by
    funext chars
    rw [belowWorkingDirectory, belowWorkingDirectory, h.workingDirectory_eq]
  unfold locate at hlocate ⊢
  simp only [hbelow] at hlocate ⊢
  split at hlocate
  · cases hlocate
  · next hchars =>
      split at hlocate
      · cases hlocate
      · next hnul =>
          rw [if_neg hchars, if_neg hnul]
          exact h.map_follow_eq_ok hlocate

theorem locate_eq_ok_iff (h : SameDirectories first second) {path : String}
    {place : FileLocation × Bool} :
    second.locate path = .ok place ↔ first.locate path = .ok place :=
  ⟨h.symm.locate_eq_ok, h.locate_eq_ok⟩

end SameDirectories

/-- After the change a location holds the entry, or nothing, and all others hold what they held. -/
structure Puts (before : FileTree) (location : FileLocation) (entry : Option FileEntry)
    (after : FileTree) : Prop where
  sameDirectories : SameDirectories before after
  find?_eq : ∀ other, after.find? other = if other = location then entry else before.find? other

variable {tree : FileTree} {location : FileLocation} {path : String}

theorem puts_set (h : tree.find? location ≠ some .directory) (bytes : ByteArray) :
    tree.Puts location (some (.file bytes)) (tree.set location (.file bytes)) where
  sameDirectories := by
    refine ⟨rfl, fun other => ?_⟩
    rw [find?_set h]
    split
    next heq => simp [heq, h]
    next => rfl
  find?_eq _ := find?_set h

theorem puts_erase (h : tree.find? location ≠ some .directory) :
    tree.Puts location none (tree.erase location) where
  sameDirectories := by
    refine ⟨rfl, fun other => ?_⟩
    rw [find?_erase h]
    split
    next heq => simp [heq, h]
    next => rfl
  find?_eq _ := find?_erase h

/-- A path leads to a place where a regular file stands or may be put. -/
@[mk_iff] structure Writable (tree : FileTree) (path : String) (location : FileLocation) :
    Prop where
  locate_eq : tree.locate path = .ok (location, false)
  not_directory : tree.find? location ≠ some .directory

/-- A path leads to a regular file. -/
@[mk_iff] structure HasFile (tree : FileTree) (path : String) (location : FileLocation)
    (bytes : ByteArray) : Prop where
  locate_eq : tree.locate path = .ok (location, false)
  find?_eq : tree.find? location = some (.file bytes)

theorem HasFile.writable {bytes : ByteArray} (h : tree.HasFile path location bytes) :
    tree.Writable path location :=
  ⟨h.locate_eq, by simp [h.find?_eq]⟩

theorem Writable.exists_hasFile (h : tree.Writable path location)
    (hthere : (tree.find? location).isSome) : ∃ bytes, tree.HasFile path location bytes := by
  obtain ⟨entry, hentry⟩ := Option.isSome_iff_exists.1 hthere
  cases entry with
  | directory => exact absurd hentry h.not_directory
  | file bytes => exact ⟨bytes, h.locate_eq, hentry⟩

theorem SameDirectories.writable_iff {before after : FileTree} (h : SameDirectories before after) :
    after.Writable path location ↔ before.Writable path location := by
  rw [FileTree.writable_iff, FileTree.writable_iff, h.locate_eq_ok_iff, ne_eq, ne_eq,
    h.directory_iff]

namespace Puts

variable {before after : FileTree} {bytes : ByteArray}

theorem hasFile (h : before.Puts location (some (.file bytes)) after)
    (hlocate : before.locate path = .ok (location, false)) : after.HasFile path location bytes :=
  ⟨h.sameDirectories.locate_eq_ok hlocate, by rw [h.find?_eq, if_pos rfl]⟩

end Puts

theorem read_eq_ok_iff {bytes : ByteArray} :
    tree.read path = .ok bytes ↔ ∃ location, tree.HasFile path location bytes := by
  simp only [hasFile_iff, read, bind, Except.bind]
  cases hlocate : tree.locate path with
  | error fault => simp
  | ok place =>
      obtain ⟨location, slash⟩ := place
      dsimp only
      cases hfind : tree.find? location with
      | none => simp [hfind]
      | some entry =>
          cases entry with
          | directory => simp [hfind]
          | file held => cases slash <;> simp [hfind]

theorem write_eq_ok_iff {bytes : ByteArray} {next : FileTree} :
    tree.write path bytes = .ok next ↔
      ∃ location, tree.Writable path location ∧ tree.set location (.file bytes) = next := by
  simp only [writable_iff, write, bind, Except.bind, and_assoc]
  cases hlocate : tree.locate path with
  | error fault => simp
  | ok place =>
      obtain ⟨location, slash⟩ := place
      dsimp only
      split
      next hdirectory => simp [hdirectory]
      next hother =>
        have hne : tree.find? location ≠ some .directory := hother
        cases slash <;> simp [hne]

theorem Writable.write_eq (h : tree.Writable path location) (bytes : ByteArray) :
    tree.write path bytes = .ok (tree.set location (.file bytes)) :=
  write_eq_ok_iff.2 ⟨location, h, rfl⟩

theorem remove_eq_ok_iff {next : FileTree} :
    tree.remove path = .ok next ↔
      ∃ location, (∃ bytes, tree.HasFile path location bytes) ∧ tree.erase location = next := by
  simp only [hasFile_iff, remove, bind, Except.bind, exists_and_left, and_assoc]
  cases hlocate : tree.locate path with
  | error fault => simp
  | ok place =>
      obtain ⟨location, slash⟩ := place
      dsimp only
      cases hfind : tree.find? location with
      | none => simp [hfind]
      | some entry =>
          cases entry with
          | directory => simp [hfind]
          | file held => cases slash <;> simp [hfind]

theorem rename_eq_ok_iff {target : String} {bytes : ByteArray} {next : FileTree}
    (h : tree.HasFile path location bytes) :
    tree.rename path target = .ok next ↔
      ∃ new, tree.Writable target new ∧
        (if location = new then tree else (tree.erase location).set new (.file bytes)) = next := by
  simp only [writable_iff, rename, bind, Except.bind, h.locate_eq, h.find?_eq, and_assoc]
  cases hlocate : tree.locate target with
  | error fault => simp
  | ok place =>
      obtain ⟨new, slash⟩ := place
      dsimp only
      cases slash with
      | true => simp
      | false =>
          simp only [Bool.false_eq_true, if_false]
          split
          next hdirectory => simp [hdirectory]
          next hother =>
            have hne : tree.find? new ≠ some .directory := hother
            simp [hne]

theorem copy_eq_ok_iff {source target : String} {next : FileTree} :
    tree.copy source target = .ok next ↔
      ∃ bytes, tree.read source = .ok bytes ∧ tree.write target bytes = .ok next := by
  unfold copy
  cases hread : tree.read source with
  | error fault => cases fault <;> simp
  | ok bytes => simp

/-- The same obstacle stops both. -/
theorem exists_remove_eq_error_of_write {bytes : ByteArray} {fault : FileFault}
    (h : tree.write path bytes = .error fault) : ∃ fault, tree.remove path = .error fault := by
  cases hremove : tree.remove path with
  | error fault => exact ⟨fault, rfl⟩
  | ok next =>
      obtain ⟨location, ⟨held, hfile⟩, _⟩ := remove_eq_ok_iff.1 hremove
      rw [write_eq_ok_iff.2 ⟨location, hfile.writable, rfl⟩] at h
      cases h

theorem contains_of_hasFile {bytes : ByteArray} (h : tree.HasFile path location bytes) :
    tree.contains path = true := by
  simp [contains, h.locate_eq, h.find?_eq]

theorem contains_of_writable (h : tree.Writable path location) :
    tree.contains path = (tree.find? location).isSome := by
  have hfile := h.not_directory
  simp only [contains, h.locate_eq]
  cases hfind : tree.find? location with
  | none => rfl
  | some entry =>
      cases entry with
      | directory => exact absurd hfind hfile
      | file bytes => rfl

/-- What stands where a path leads. -/
def entryAt (tree : FileTree) (path : String) : Option FileEntry :=
  match tree.locate path with
  | .ok place => tree.find? place.1
  | .error _ => none

theorem entryAt_eq {slash : Bool} (h : tree.locate path = .ok (location, slash)) :
    tree.entryAt path = tree.find? location := by
  rw [entryAt, h]

/-- Two paths do not lead to the same place. -/
def Apart (tree : FileTree) (first second : String) : Prop :=
  ∀ place other, tree.locate first = .ok place → tree.locate second = .ok other →
    place.1 ≠ other.1

theorem apart_of_locate_eq {first second : String} (one other : FileLocation × Bool)
    (hfirst : tree.locate first = .ok one) (hsecond : tree.locate second = .ok other)
    (hne : one.1 ≠ other.1) : tree.Apart first second := by
  intro place place' hplace hplace'
  cases hfirst.symm.trans hplace
  cases hsecond.symm.trans hplace'
  exact hne

theorem Apart.symm {first second : String} (h : tree.Apart first second) :
    tree.Apart second first :=
  fun place other hplace hother => (h other place hother hplace).symm

/-- Nothing is different but what stands where one of the paths leads. -/
structure ChangesOnly (paths : List String) (before after : FileTree) : Prop where
  sameDirectories : SameDirectories before after
  find?_eq : ∀ location,
    (∀ path ∈ paths, ∀ slash, before.locate path ≠ .ok (location, slash)) →
      after.find? location = before.find? location

namespace ChangesOnly

variable {first second third : FileTree} {paths others : List String}

theorem refl (paths : List String) (tree : FileTree) : ChangesOnly paths tree tree :=
  ⟨.refl tree, fun _ _ => rfl⟩

theorem trans (h : ChangesOnly paths first second) (h' : ChangesOnly others second third) :
    ChangesOnly (paths ++ others) first third := by
  refine ⟨h.sameDirectories.trans h'.sameDirectories, ?_⟩
  intro location hfree
  rw [h'.find?_eq, h.find?_eq]
  · exact fun path hmem => hfree path (List.mem_append_left _ hmem)
  · intro path hmem slash
    rw [ne_eq, h.sameDirectories.locate_eq_ok_iff]
    exact hfree path (List.mem_append_right _ hmem) slash

theorem mono (h : ChangesOnly paths first second) (hsubset : paths ⊆ others) :
    ChangesOnly others first second :=
  ⟨h.sameDirectories, fun location hfree =>
    h.find?_eq location fun path hmem => hfree path (hsubset hmem)⟩

theorem entryAt_eq (h : ChangesOnly paths first second)
    (hapart : ∀ other ∈ paths, first.Apart path other) :
    second.entryAt path = first.entryAt path := by
  unfold entryAt
  cases hlocate : first.locate path with
  | ok place =>
      rw [h.sameDirectories.locate_eq_ok hlocate]
      apply h.find?_eq
      intro other hmem slash hother
      exact hapart other hmem place _ hlocate hother rfl
  | error fault =>
      cases hafter : second.locate path with
      | ok place =>
          rw [h.sameDirectories.locate_eq_ok_iff, hlocate] at hafter
          cases hafter
      | error fault => rfl

theorem hasFile {location : FileLocation} {bytes : ByteArray}
    (h : ChangesOnly paths first second) (hapart : ∀ other ∈ paths, first.Apart path other)
    (hfile : first.HasFile path location bytes) : second.HasFile path location bytes := by
  have hlocate := h.sameDirectories.locate_eq_ok hfile.locate_eq
  have hentry := h.entryAt_eq hapart
  rw [FileTree.entryAt_eq hlocate, FileTree.entryAt_eq hfile.locate_eq, hfile.find?_eq] at hentry
  exact ⟨hlocate, hentry⟩

end ChangesOnly

namespace Puts

variable {before after : FileTree} {entry : Option FileEntry} {slash : Bool}

theorem changesOnly (h : before.Puts location entry after)
    (hlocate : before.locate path = .ok (location, slash)) : ChangesOnly [path] before after := by
  refine ⟨h.sameDirectories, ?_⟩
  intro other hfree
  rw [h.find?_eq, if_neg]
  rintro rfl
  exact hfree path (List.mem_singleton_self path) slash hlocate

theorem entryAt_eq (h : before.Puts location entry after)
    (hlocate : before.locate path = .ok (location, slash)) : after.entryAt path = entry := by
  rw [FileTree.entryAt_eq (h.sameDirectories.locate_eq_ok hlocate), h.find?_eq, if_pos rfl]

end Puts

theorem SameDirectories.apart_iff {before after : FileTree} {first second : String}
    (h : SameDirectories before after) :
    after.Apart first second ↔ before.Apart first second := by
  simp only [Apart, h.locate_eq_ok_iff]

section Runs

variable {source target : String} {bytes : ByteArray}

/-- The answer to an all-or-nothing change of the tree, and the tree that it leaves. -/
def answer (tree : FileTree) : Except FileFault FileTree → Except FileFault Unit × FileTree
  | .ok next => (.ok (), next)
  | .error fault => (.error fault, tree)

@[simp] theorem answer_ok (next : FileTree) : tree.answer (.ok next) = (.ok (), next) := rfl

@[simp] theorem answer_error (fault : FileFault) :
    tree.answer (.error fault) = (.error fault, tree) := rfl

theorem run_change (f : FileTree → Except FileFault FileTree) :
    (change f).run tree = pure (tree.answer (f tree)) := by
  rw [StateT.run, change]
  cases f tree <;> rfl

@[simp] theorem run_fileExists :
    (FileAccess.fileExists path : StateM FileTree Bool).run tree =
      pure (tree.contains path, tree) := rfl

@[simp] theorem run_readBytes :
    (FileAccess.readBytes path : StateM FileTree (Except FileFault ByteArray)).run tree =
      pure (tree.read path, tree) := rfl

@[simp] theorem run_writeBytes :
    (FileAccess.writeBytes path bytes : StateM FileTree (Except FileFault Unit)).run tree =
      pure (tree.answer (tree.write path bytes)) := run_change _

@[simp] theorem run_rename :
    (FileAccess.rename source target : StateM FileTree (Except FileFault Unit)).run tree =
      pure (tree.answer (tree.rename source target)) := run_change _

@[simp] theorem run_copy :
    (FileAccess.copy source target : StateM FileTree (Except FileFault Unit)).run tree =
      pure (tree.answer (tree.copy source target)) := run_change _

@[simp] theorem run_remove :
    (FileAccess.remove path : StateM FileTree (Except FileFault Unit)).run tree =
      pure (tree.answer (tree.remove path)) := run_change _

end Runs

end FileTree

end MockCluster
