import MockCluster.Proofs.Files
import MockCluster.WriteBack

/-!
A write-back is all or nothing: what each of its steps makes of the files, and what is left when one
of them fails.
-/

namespace MockCluster

namespace WriteBack

open FileTree

variable {tree : FileTree} {content destination suffix : String}

theorem verifyBytes_ofText (content : String) :
    verifyBytes (.ofText content) content.toUTF8 =
      match Document.parse content with
      | .ok _ => .ok ()
      | .error problem => .error (.notDocument problem) := by
  have hverify : (Checksum.ofText content).verify content.toUTF8 = true := by
    simp [Checksum.verify, Checksum.ofText]
  have htext : String.fromUTF8? content.toUTF8 = some content := by
    have hvalid : content.toUTF8.IsValidUTF8 := content.isValidUTF8
    rw [String.fromUTF8?, dif_pos hvalid]
    rfl
  rw [verifyBytes, if_pos hverify]
  cases hparse : Document.parse content <;> simp only [htext, hparse]

/-- What is at the destination has been copied to the path of the backup. -/
structure BackedUp (suffix destination : String) (before : FileTree) (copied : Option String)
    (after : FileTree) : Prop where
  changesOnly : ChangesOnly [FilePath.sibling destination suffix] before after
  copied_eq : ∀ place, before.Writable destination place →
    copied = (before.find? place).map fun _ => FilePath.sibling destination suffix
  hasFile : ∀ place former, before.HasFile destination place former →
    ∃ location, after.HasFile (FilePath.sibling destination suffix) location former

/-- A destination that is there is copied, unless this fails because one of the paths cannot be
written. -/
theorem backUp_cases (suffix destination : String) (tree : FileTree) :
    let outcome := ((backUp suffix destination : StateM FileTree _).run tree).run
    (∃ path fault, outcome = (.error ⟨.backup, path, .file fault, false⟩, tree) ∧
      ∀ place location, tree.Writable destination place →
        ¬ tree.Writable (FilePath.sibling destination suffix) location) ∨
      ∃ copied next, outcome = (.ok copied, next) ∧
        BackedUp suffix destination tree copied next := by
  intro outcome
  cases hcontains : tree.contains destination with
  | false =>
      refine .inr ⟨none, tree, ?_, .refl _ tree, ?_, ?_⟩
      · simp [outcome, backUp, hcontains]
      · intro place hplace
        rw [contains_of_writable hplace, Option.isSome_eq_false_iff, Option.isNone_iff_eq_none]
          at hcontains
        rw [hcontains, Option.map_none]
      · intro place former hfile
        rw [contains_of_hasFile hfile] at hcontains
        cases hcontains
  | true =>
      cases hcopy : tree.copy destination (FilePath.sibling destination suffix) with
      | error fault =>
          refine .inl ⟨FilePath.sibling destination suffix, fault, ?_, ?_⟩
          · simp [outcome, backUp, hcontains, hcopy]
          · intro place location hplace hwritable
            rw [contains_of_writable hplace] at hcontains
            obtain ⟨former, hformer⟩ := hplace.exists_hasFile hcontains
            have hread := read_eq_ok_iff.2 ⟨place, hformer⟩
            rw [copy_eq_ok_iff.2 ⟨former, hread, hwritable.write_eq former⟩] at hcopy
            cases hcopy
      | ok next =>
          obtain ⟨former, hread, hwrite⟩ := copy_eq_ok_iff.1 hcopy
          obtain ⟨place, hfile⟩ := read_eq_ok_iff.1 hread
          obtain ⟨location, hwritable, hset⟩ := write_eq_ok_iff.1 hwrite
          have hputs : tree.Puts location (some (.file former)) next :=
            hset ▸ puts_set hwritable.not_directory former
          have hunique : ∀ other, tree.locate destination = .ok (other, false) → other = place := by
            intro other hother
            cases hother.symm.trans hfile.locate_eq
            rfl
          refine .inr ⟨some (FilePath.sibling destination suffix), next, ?_,
            hputs.changesOnly hwritable.locate_eq, ?_, ?_⟩
          · simp [outcome, backUp, hcontains, hcopy]
          · intro other hother
            rw [hunique other hother.locate_eq, hfile.find?_eq, Option.map_some]
          · intro other held hheld
            rw [hunique other hheld.locate_eq] at hheld
            cases hheld.find?_eq.symm.trans hfile.find?_eq
            exact ⟨location, hputs.hasFile hwritable.locate_eq⟩

/-- The text is written beside the destination and moved over it, or what was written is removed
again because one of the paths cannot be written. -/
theorem replace_cases {tree : FileTree} {suffix destination : String} (content : String)
    (hapart : tree.Apart destination (FilePath.sibling destination suffix)) :
    let outcome := ((replace suffix content destination : StateM FileTree _).run tree).run
    let temp := FilePath.sibling destination suffix
    (∃ fault, outcome = (.error ⟨.writeTemp, temp, .file fault, false⟩, tree) ∧
        ∀ location, ¬ tree.Writable temp location) ∨
      (∃ fault next, outcome = (.error ⟨.rename, destination, .file fault, false⟩, next) ∧
        ChangesOnly [temp] tree next ∧ next.entryAt temp = none ∧
        ∀ place, ¬ tree.Writable destination place) ∨
      ∃ next place, outcome = (.ok (), next) ∧
        ChangesOnly [temp, destination] tree next ∧ next.entryAt temp = none ∧
        tree.Writable destination place ∧ next.HasFile destination place content.toUTF8 := by
  intro outcome temp
  cases hwrite : tree.write temp content.toUTF8 with
  | error fault =>
      obtain ⟨fault', hremove⟩ := exists_remove_eq_error_of_write hwrite
      refine .inl ⟨fault, ?_, fun location hwritable => ?_⟩
      · simp [outcome, replace, FileAccess.writeText, temp, -String.toUTF8_eq_toByteArray, hwrite,
          hremove]
      · rw [hwritable.write_eq] at hwrite
        cases hwrite
  | ok written =>
      obtain ⟨location, hwritable, hset⟩ := write_eq_ok_iff.1 hwrite
      have hwritten : tree.Puts location (some (.file content.toUTF8)) written :=
        hset ▸ puts_set hwritable.not_directory content.toUTF8
      have hfile : written.HasFile temp location content.toUTF8 :=
        hwritten.hasFile hwritable.locate_eq
      have herased := puts_erase hfile.writable.not_directory
      have hchanges : ChangesOnly [temp] tree (written.erase location) :=
        ((hwritten.changesOnly hwritable.locate_eq).trans
          (herased.changesOnly hfile.locate_eq)).mono (by simp)
      cases hrename : written.rename temp destination with
      | error fault =>
          have hremove := remove_eq_ok_iff.2 ⟨location, ⟨_, hfile⟩, rfl⟩
          refine .inr (.inl ⟨fault, written.erase location, ?_, hchanges,
            herased.entryAt_eq hfile.locate_eq, fun place hplace => ?_⟩)
          · simp [outcome, replace, FileAccess.writeText, temp, -String.toUTF8_eq_toByteArray,
              hwrite, hrename, hremove]
          · have hplace' := hwritten.sameDirectories.writable_iff.2 hplace
            rw [(rename_eq_ok_iff hfile).2 ⟨place, hplace', rfl⟩] at hrename
            cases hrename
      | ok next =>
          obtain ⟨place, hplace, hnext⟩ := (rename_eq_ok_iff hfile).1 hrename
          have hplace' := hwritten.sameDirectories.writable_iff.1 hplace
          have hne : place ≠ location := hapart _ _ hplace'.locate_eq hwritable.locate_eq
          rw [if_neg hne.symm] at hnext
          have herased' := herased.sameDirectories.writable_iff.2 hplace
          have hmoved : Puts (written.erase location) place (some (.file content.toUTF8)) next :=
            hnext ▸ puts_set herased'.not_directory content.toUTF8
          have hmovedOnly := hmoved.changesOnly herased'.locate_eq
          refine .inr (.inr ⟨next, place, ?_, hchanges.trans hmovedOnly, ?_, hplace',
            hmoved.hasFile herased'.locate_eq⟩)
          · simp [outcome, replace, FileAccess.writeText, temp, -String.toUTF8_eq_toByteArray,
              hwrite, hrename]
          · rw [hmovedOnly.entryAt_eq, herased.entryAt_eq hfile.locate_eq]
            intro other hmem
            rw [List.mem_singleton.1 hmem]
            exact hchanges.sameDirectories.apart_iff.2 hapart.symm

theorem run_verify {tree : FileTree} {destination : String} {bytes : ByteArray}
    (h : tree.read destination = .ok bytes) (expected : Checksum) :
    ((verify destination expected : StateM FileTree _).run tree).run =
      (verifyBytes expected bytes, tree) := by
  simp [verify, h]

theorem rollBack_some {tree : FileTree} {destination backup : String}
    {place location : FileLocation} {former : ByteArray}
    (hbackup : tree.HasFile backup location former) (hplace : tree.Writable destination place) :
    ∃ next, tree.Puts place (some (.file former)) next ∧
      ((rollBack destination (some backup) : StateM FileTree _).run tree).run = (true, next) := by
  have hread : tree.read backup = .ok former := read_eq_ok_iff.2 ⟨location, hbackup⟩
  have hcopy := copy_eq_ok_iff.2 ⟨former, hread, hplace.write_eq former⟩
  exact ⟨_, puts_set hplace.not_directory former, by simp [rollBack, hcopy]⟩

theorem rollBack_none {tree : FileTree} {destination : String} {place : FileLocation}
    {bytes : ByteArray} (h : tree.HasFile destination place bytes) :
    ∃ next, tree.Puts place none next ∧
      ((rollBack destination none : StateM FileTree _).run tree).run = (false, next) := by
  have hremove := remove_eq_ok_iff.2 ⟨place, ⟨bytes, h⟩, rfl⟩
  exact ⟨_, puts_erase h.writable.not_directory, by simp [rollBack, hremove]⟩

section Restore

variable {before mid next : FileTree} {suffix temp : String} {copied : Option String}
  {place : FileLocation}

/-- The copy outlives the replacement of the destination. -/
theorem BackedUp.exists_hasFile (hcopied : BackedUp suffix destination before copied mid)
    (hreplaced : ChangesOnly [temp, destination] mid next)
    (hplace : before.Writable destination place)
    (hbackup : before.Apart (FilePath.sibling destination suffix) destination)
    (htemp : before.Apart (FilePath.sibling destination suffix) temp) {entry : FileEntry}
    (hentry : before.entryAt destination = some entry) :
    ∃ location former, entry = .file former ∧
      next.HasFile (FilePath.sibling destination suffix) location former := by
  rw [entryAt_eq hplace.locate_eq] at hentry
  cases entry with
  | directory => exact absurd hentry hplace.not_directory
  | file former =>
      obtain ⟨location, hsaved⟩ := hcopied.hasFile place former ⟨hplace.locate_eq, hentry⟩
      refine ⟨location, former, rfl, hreplaced.hasFile ?_ hsaved⟩
      simp [hcopied.changesOnly.sameDirectories.apart_iff, hbackup, htemp]

/-- The copy is put back if there was something to copy. -/
theorem BackedUp.rollBack {bytes : ByteArray}
    (hcopied : BackedUp suffix destination before copied mid)
    (hreplaced : ChangesOnly [temp, destination] mid next)
    (hplace : before.Writable destination place) (hfile : next.HasFile destination place bytes)
    (hbackup : before.Apart (FilePath.sibling destination suffix) destination)
    (htemp : before.Apart (FilePath.sibling destination suffix) temp) :
    ∃ last, ((WriteBack.rollBack destination copied : StateM FileTree _).run next).run =
        ((before.entryAt destination).isSome, last) ∧
      ChangesOnly [destination] next last ∧
      last.entryAt destination = before.entryAt destination := by
  rw [hcopied.copied_eq place hplace, ← entryAt_eq hplace.locate_eq]
  cases hentry : before.entryAt destination with
  | none =>
      obtain ⟨last, hlast, hrun⟩ := rollBack_none hfile
      exact ⟨last, hrun, hlast.changesOnly hfile.locate_eq, hlast.entryAt_eq hfile.locate_eq⟩
  | some entry =>
      obtain ⟨location, former, rfl, hsaved⟩ :=
        hcopied.exists_hasFile hreplaced hplace hbackup htemp hentry
      obtain ⟨last, hlast, hrun⟩ := rollBack_some hsaved hfile.writable
      exact ⟨last, hrun, hlast.changesOnly hfile.locate_eq, hlast.entryAt_eq hfile.locate_eq⟩

end Restore

section Outcomes

variable (settings : WriteBackSettings) (content destination : String) (before after : FileTree)

/-- The content is in its place, and what was there is in the backup. -/
structure Written (report : WriteBackReport) : Prop where
  isDocument : ∃ doc, Document.parse content = .ok doc
  destination_eq : after.entryAt destination = some (.file content.toUTF8)
  temp_eq : after.entryAt (FilePath.sibling destination settings.tempSuffix) = none
  report_eq : report = ⟨destination, (before.entryAt destination).map fun _ =>
    FilePath.sibling destination settings.backupSuffix, content.utf8ByteSize, .ofText content⟩
  backup_eq : ∀ former, before.entryAt destination = some former →
    after.entryAt (FilePath.sibling destination settings.backupSuffix) = some former

/-- The destination is as it was, and no file has been left beside it. -/
structure Untouched (failure : WriteBackFailure) : Prop where
  destination_eq : after.entryAt destination = before.entryAt destination
  temp_eq : after.entryAt (FilePath.sibling destination settings.tempSuffix) = none ∨
    after.entryAt (FilePath.sibling destination settings.tempSuffix) =
      before.entryAt (FilePath.sibling destination settings.tempSuffix)
  restored_eq : failure.restored = false

/-- The content was in its place and no document; now what was there is back, or nothing is there if
nothing was. -/
structure RolledBack (failure : WriteBackFailure) : Prop where
  notDocument : ∃ problem, Document.parse content = .error problem
  destination_eq : after.entryAt destination = before.entryAt destination
  temp_eq : after.entryAt (FilePath.sibling destination settings.tempSuffix) = none
  restored_eq : failure.restored = (before.entryAt destination).isSome

def Settled : Except WriteBackFailure WriteBackReport → Prop
  | .ok report => Written settings content destination before after report
  | .error failure =>
    if failure.step = .validate then
      RolledBack settings content destination before after failure
    else Untouched settings destination before after failure

end Outcomes

theorem Settled.rolledBack {settings : WriteBackSettings} {before after : FileTree}
    {failure : WriteBackFailure}
    (h : Settled settings content destination before after (.error failure))
    (hstep : failure.step = .validate) :
    RolledBack settings content destination before after failure := by
  rw [Settled, if_pos hstep] at h
  exact h

/-- Once the content has been moved into its place, whether it is a document decides. -/
theorem settled_of_replaced {settings : WriteBackSettings} {before mid next : FileTree}
    {copied : Option String} {place : FileLocation}
    (hbackUp : ((backUp settings.backupSuffix destination : StateM FileTree _).run before).run =
      (.ok copied, mid))
    (hcopied : BackedUp settings.backupSuffix destination before copied mid)
    (hreplace :
      ((replace settings.tempSuffix content destination : StateM FileTree _).run mid).run =
        (.ok (), next))
    (hchanges :
      ChangesOnly [FilePath.sibling destination settings.tempSuffix, destination] mid next)
    (hgone : next.entryAt (FilePath.sibling destination settings.tempSuffix) = none)
    (hplace : before.Writable destination place)
    (hfile : next.HasFile destination place content.toUTF8)
    (hbackup : before.Apart (FilePath.sibling destination settings.backupSuffix) destination)
    (htemp : before.Apart (FilePath.sibling destination settings.tempSuffix) destination)
    (hsiblings : before.Apart (FilePath.sibling destination settings.backupSuffix)
      (FilePath.sibling destination settings.tempSuffix)) :
    let outcome := ((commit settings content destination : StateM FileTree _).run before).run
    Settled settings content destination before outcome.2 outcome.1 ∧
      ChangesOnly [destination, FilePath.sibling destination settings.backupSuffix,
        FilePath.sibling destination settings.tempSuffix] before outcome.2 ∧
      ∀ failure, outcome.1 = .error failure → failure.step = .validate := by
  intro outcome
  have hchanged := hcopied.changesOnly.trans hchanges
  have hverify := run_verify (read_eq_ok_iff.2 ⟨place, hfile⟩) (.ofText content)
  rw [verifyBytes_ofText] at hverify
  cases hparse : Document.parse content with
  | ok doc =>
      rw [hparse] at hverify
      have houtcome : outcome =
          (.ok ⟨destination, copied, content.utf8ByteSize, .ofText content⟩, next) := by
        simp [outcome, commit, hbackUp, hreplace, hverify]
      rw [houtcome]
      refine ⟨⟨⟨doc, hparse⟩, ?_, hgone, ?_, ?_⟩, hchanged.mono (by simp), nofun⟩
      · rw [entryAt_eq hfile.locate_eq, hfile.find?_eq]
      · rw [hcopied.copied_eq place hplace, entryAt_eq hplace.locate_eq]
      · intro former hformer
        obtain ⟨location, held, rfl, hsaved⟩ :=
          hcopied.exists_hasFile hchanges hplace hbackup hsiblings hformer
        rw [entryAt_eq hsaved.locate_eq, hsaved.find?_eq]
  | error problem =>
      rw [hparse] at hverify
      obtain ⟨last, hrun, hlast, hback⟩ :=
        hcopied.rollBack hchanges hplace hfile hbackup hsiblings
      have houtcome : outcome = (.error ⟨.validate, destination,
          .verify (.notDocument problem), (before.entryAt destination).isSome⟩, last) := by
        simp [outcome, commit, hbackUp, hreplace, hverify, hrun]
      rw [houtcome]
      refine ⟨⟨⟨problem, hparse⟩, hback, ?_, rfl⟩, (hchanged.trans hlast).mono (by simp), ?_⟩
      · rw [hlast.entryAt_eq, hgone]
        simpa [hchanged.sameDirectories.apart_iff] using htemp
      · intro failure hfailure
        cases hfailure
        rfl

/-- Whatever happens, the destination holds the content or what it held before, and the answer says
which.  Nothing is different elsewhere but the backup and the temporary file.  If all three can be
written, nothing fails but the check of the content. -/
theorem commit_all_or_nothing (settings : WriteBackSettings) (content destination : String)
    (before : FileTree)
    (hbackup : before.Apart destination (FilePath.sibling destination settings.backupSuffix))
    (htemp : before.Apart destination (FilePath.sibling destination settings.tempSuffix))
    (hsiblings : before.Apart (FilePath.sibling destination settings.backupSuffix)
      (FilePath.sibling destination settings.tempSuffix)) :
    let outcome := ((commit settings content destination : StateM FileTree _).run before).run
    Settled settings content destination before outcome.2 outcome.1 ∧
      ChangesOnly [destination, FilePath.sibling destination settings.backupSuffix,
        FilePath.sibling destination settings.tempSuffix] before outcome.2 ∧
      ∀ place backup temp, before.Writable destination place →
        before.Writable (FilePath.sibling destination settings.backupSuffix) backup →
        before.Writable (FilePath.sibling destination settings.tempSuffix) temp →
        ∀ failure, outcome.1 = .error failure → failure.step = .validate := by
  intro outcome
  rcases backUp_cases settings.backupSuffix destination before with
    ⟨path, fault, hbackUp, hblocked⟩ | ⟨copied, mid, hbackUp, hcopied⟩
  · have houtcome : outcome = (.error ⟨.backup, path, .file fault, false⟩, before) := by
      simp [outcome, commit, hbackUp]
    rw [houtcome]
    exact ⟨⟨rfl, .inr rfl, rfl⟩, .refl _ before,
      fun place backup _ hplace hwritable => absurd hwritable (hblocked place backup hplace)⟩
  have hsame := hcopied.changesOnly.sameDirectories
  have hkept : mid.entryAt destination = before.entryAt destination :=
    hcopied.changesOnly.entryAt_eq (by simpa using hbackup)
  have htemp' := hsame.apart_iff.2 htemp
  rcases replace_cases content htemp' with ⟨fault, hreplace, hblocked⟩ |
    ⟨fault, next, hreplace, hchanges, hgone, hblocked⟩ |
    ⟨next, place, hreplace, hchanges, hgone, hplace, hfile⟩
  · have houtcome : outcome = (.error ⟨.writeTemp,
        FilePath.sibling destination settings.tempSuffix, .file fault, false⟩, mid) := by
      simp [outcome, commit, hbackUp, hreplace]
    rw [houtcome]
    refine ⟨⟨hkept, .inr ?_, rfl⟩, hcopied.changesOnly.mono (by simp), ?_⟩
    · exact hcopied.changesOnly.entryAt_eq (by simpa using hsiblings.symm)
    · exact fun _ _ location _ _ hwritable =>
        absurd (hsame.writable_iff.2 hwritable) (hblocked location)
  · have houtcome : outcome = (.error ⟨.rename, destination, .file fault, false⟩, next) := by
      simp [outcome, commit, hbackUp, hreplace]
    rw [houtcome]
    refine ⟨⟨?_, .inl hgone, rfl⟩, (hcopied.changesOnly.trans hchanges).mono (by simp), ?_⟩
    · rw [hchanges.entryAt_eq (by simpa using htemp'), hkept]
    · exact fun place _ _ hplace _ _ => absurd (hsame.writable_iff.2 hplace) (hblocked place)
  · obtain ⟨hsettled, honly, hvalidate⟩ := settled_of_replaced hbackUp hcopied hreplace hchanges
      hgone (hsame.writable_iff.1 hplace) hfile hbackup.symm htemp.symm hsiblings
    exact ⟨hsettled, honly, fun _ _ _ _ _ _ => hvalidate⟩

/-- A document in the working directory, and nothing beside it. -/
def loneDocument : FileTree := ⟨"/work", [(["data.json"], .file "\x7b\x7d".toUTF8)]⟩

/-- Content that is no document does not last; a document is written, and the former one is kept. -/
theorem commit_loneDocument :
    let settings := Settings.standard.writeBack
    let backup := FilePath.sibling "data.json" settings.backupSuffix
    let temp := FilePath.sibling "data.json" settings.tempSuffix
    let former : FileEntry := .file "\x7b\x7d".toUTF8
    let content := "\x7b\"tasks\":[]\x7d"
    let refused := ((commit settings "[" "data.json" : StateM FileTree _).run loneDocument).run
    let written := ((commit settings content "data.json" : StateM FileTree _).run loneDocument).run
    (loneDocument.Apart "data.json" backup ∧ loneDocument.Apart "data.json" temp ∧
      loneDocument.Apart backup temp) ∧
      ((∃ failure, refused.1 = .error failure ∧ failure.step = .validate ∧
          failure.restored = true) ∧
        refused.2.entryAt "data.json" = some former) ∧
      (∃ report, written.1 = .ok report ∧ report.backup = some backup) ∧
        written.2.entryAt "data.json" = some (.file content.toUTF8) ∧
        written.2.entryAt backup = some former := by
  intro settings backup temp former content refused written
  have hbackup : loneDocument.Apart "data.json" backup :=
    apart_of_locate_eq (["data.json"], false) (["data.json.bak"], false)
      (by decide) (by decide) (by decide)
  have htemp : loneDocument.Apart "data.json" temp :=
    apart_of_locate_eq (["data.json"], false) (["data.json.tmp"], false)
      (by decide) (by decide) (by decide)
  have hsiblings : loneDocument.Apart backup temp :=
    apart_of_locate_eq (["data.json.bak"], false) (["data.json.tmp"], false)
      (by decide) (by decide) (by decide)
  have hformer : loneDocument.entryAt "data.json" = some former := rfl
  have hwritable : loneDocument.Writable "data.json" ["data.json"] :=
    ⟨by decide, nofun⟩
  have hwritableBackup : loneDocument.Writable backup ["data.json.bak"] :=
    ⟨by decide, nofun⟩
  have hwritableTemp : loneDocument.Writable temp ["data.json.tmp"] :=
    ⟨by decide, nofun⟩
  refine ⟨⟨hbackup, htemp, hsiblings⟩, ?_, ?_⟩
  · obtain ⟨hsettled, -, hvalidate⟩ :=
      commit_all_or_nothing settings "[" "data.json" loneDocument hbackup htemp hsiblings
    replace hvalidate := hvalidate _ _ _ hwritable hwritableBackup hwritableTemp
    change Settled settings "[" "data.json" loneDocument refused.2 refused.1 at hsettled
    cases houtcome : refused.1 with
    | ok report =>
        rw [houtcome] at hsettled
        obtain ⟨doc, hparse⟩ := hsettled.isDocument
        have hrefused : (Document.parse "[").toOption = none := by decide
        rw [hparse] at hrefused
        cases hrefused
    | error failure =>
        rw [houtcome] at hsettled
        have hstep : failure.step = .validate := hvalidate failure houtcome
        have hrolledBack := hsettled.rolledBack hstep
        exact ⟨⟨failure, rfl, hstep, hrolledBack.restored_eq⟩, hrolledBack.destination_eq⟩
  · obtain ⟨hsettled, -, hvalidate⟩ :=
      commit_all_or_nothing settings content "data.json" loneDocument hbackup htemp hsiblings
    replace hvalidate := hvalidate _ _ _ hwritable hwritableBackup hwritableTemp
    change Settled settings content "data.json" loneDocument written.2 written.1 at hsettled
    cases houtcome : written.1 with
    | ok report =>
        rw [houtcome] at hsettled
        refine ⟨⟨report, rfl, ?_⟩, hsettled.destination_eq, hsettled.backup_eq former hformer⟩
        rw [hsettled.report_eq, hformer]
        rfl
    | error failure =>
        rw [houtcome] at hsettled
        obtain ⟨problem, hparse⟩ := (hsettled.rolledBack (hvalidate failure houtcome)).notDocument
        have haccepted : (Document.parse content).toOption.isSome = true := by decide
        rw [hparse] at haccepted
        cases haccepted

end WriteBack

end MockCluster
