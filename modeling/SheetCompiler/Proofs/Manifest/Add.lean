import SheetCompiler.Proofs.Session.Outputs

/-!
# Recording a table that cannot be recorded

A table is put into the manifest before the file of the manifest is written. If the file cannot be
written no file changes, but the table stays in the manifest: from then on the manifest and its file
say different things, and the next time that the file is written it records the table.

Main statement: `record_eq_error`.
-/

namespace SheetCompiler

open SheetCompiler.Stateful SheetCompiler.FileTree

/-- A manifest that is not recorded leaves every file as it was. -/
lemma recording_eq_error {s : Settings} {m : Manifest} {files files' : FileTree} {f : Failure}
    (h : (recording s m).apply files = (.error f, files')) : ChangesAt ∅ files files' := by
  unfold recording at h
  split at h
  · exact Filing.changesAt_of_writeValue_error h ∅
  · cases h
    exact .refl _ _

namespace Action

/-- Recording a table that fails changes no file, and yet the table is in the manifest afterwards,
unless its name cannot be one. So the manifest is as it was only if it held the very same entry, and
the next time that its file is written, the file records what has not been recorded. -/
theorem record_eq_error {c : Compilation} {p q : Project} {f : Failure}
    (h : (record c).apply p = (.error f, q)) :
    (∀ l, q.files.content? l = p.files.content? l) ∧ q.settings = p.settings ∧
      q.loaded = p.loaded ∧
      q.manifest = (if c.name.isKey = true then p.manifest.insert c else p.manifest) ∧
      (q.manifest = p.manifest ↔ (c.name.isKey = true → c ∈ p.manifest.entries)) ∧
      ∀ later written : Project, later.manifest = q.manifest → later.loaded = q.loaded →
        persist.apply later = (.ok (), written) →
        ∃ place, p.loaded.manifest = .text place ∧
          written.files.readText place = .ok q.manifest.print := by
  have hlater (m : Manifest) (later written : Project) (hm : later.manifest = m)
      (hl : later.loaded = p.loaded) (hw : persist.apply later = (.ok (), written)) :
      ∃ place, p.loaded.manifest = .text place ∧
        written.files.readText place = .ok m.print := by
    rw [apply_persist, hm, hl] at hw
    rcases hrun : (recording p.loaded m).apply later.files with ⟨e | _, files⟩
    · rw [hrun] at hw
      cases hw
    · rw [hrun] at hw
      cases hw
      obtain ⟨place, hplace, hread, -⟩ := exists_place_of_recording hrun
      exact ⟨place, hplace, readText_of_read hread⟩
  by_cases hkey : c.name.isKey = true
  · rw [apply_record hkey] at h
    rcases hrun : (recording p.loaded (p.manifest.insert c)).apply p.files with ⟨e | _, files⟩
    swap
    · rw [hrun] at h
      cases h
    rw [hrun] at h
    cases h
    have hfiles := recording_eq_error hrun
    refine ⟨fun l => hfiles.files l (Set.notMem_empty l), rfl, rfl, (if_pos hkey).symm, ?_,
      hlater _⟩
    constructor
    · intro hsame _
      rw [← hsame]
      exact Manifest.mem_insert.2 (.inl rfl)
    · exact fun hmem => Manifest.insert_of_mem (hmem hkey)
  · have hrefused : (record c).apply p = (.error .shape, p) := by
      rw [record, if_neg hkey, apply_throw]
    rw [hrefused] at h
    cases h
    refine ⟨fun _ => rfl, rfl, rfl, (if_neg hkey).symm, ?_, hlater _⟩
    exact iff_of_true rfl fun hc => absurd hc hkey

end Action

/-- A table that no file was written for. -/
def gearTable : Compilation := .ofTexts "Enum" "Gear" "Gear.xlsx" []

/-- A project with a directory in the place of the manifest's file. -/
def blockedProject : Project :=
  .ofFiles (.ofDirectories "Dist" "Resources")
    ⟨[(["Dist"], .directory), (["Dist", "ParseResult.json"], .directory)]⟩ "Resources"

/-- The table is not recorded, and it is in the manifest. -/
theorem blockedProject_record : ∃ f q, (Action.record gearTable).apply blockedProject =
    (.error f, q) ∧ q.manifest = blockedProject.manifest.insert gearTable ∧
      ∀ l, q.files.content? l = blockedProject.files.content? l := by
  have hrefused : ((Action.record gearTable).apply blockedProject).1.isOk = false := by
    decide +kernel
  rcases hrun : (Action.record gearTable).apply blockedProject with ⟨f | _, q⟩
  · obtain ⟨hfiles, -, -, hmanifest, -, -⟩ := Action.record_eq_error hrun
    exact ⟨f, q, rfl, hmanifest, hfiles⟩
  · rw [hrun] at hrefused
    cases hrefused

/-- When the directory is gone and the manifest is written, its file records the table. -/
theorem gearTable_recorded :
    (Session.answers [.record gearTable, .replaceFiles .empty, .persist] blockedProject).map
        Except.isOk = [false, true, true] ∧
      blockedProject.manifest.entries = [] ∧
      (Session.after [.record gearTable] blockedProject).manifest.names.filterMap Json.text? =
        ["Gear"] ∧
      (Session.after [.record gearTable, .replaceFiles .empty, .persist]
        blockedProject).files.readText "Dist/ParseResult.json" =
          .ok (Manifest.ofList [gearTable]).print := by
  refine ⟨by decide +kernel, rfl, by decide +kernel, by decide +kernel⟩

end SheetCompiler
