import Stencil.Proofs.Outcome
import Stencil.Proofs.Resolution

/-! What operations change on a disk.

* `Disk.ChangesOnly`: nothing changes but that directories are made at given paths and that texts are
  written to given files.
* `Disk.ChangesOnly.trans`: changes add up.
* `Disk.changes_of_makeDirectories`, `Disk.changes_of_writeText`: what the operations change. -/

namespace Stencil
set_option autoImplicit false

open Outcome

/-- The paths around a path: itself, its parent, the parent of this one, and so on. -/
inductive Path.Around (path : String) : String → Prop
  | self : Path.Around path path
  | parent {inner outer : String} : Path.Around path inner → Path.parent? inner = some outer →
      Path.Around path outer

theorem Path.Around.of_parent {path outer around : String} (step : Path.parent? path = some outer)
    (h : Path.Around outer around) : Path.Around path around := by
  induction h with
  | self => exact .parent .self step
  | parent _ next ih => exact .parent ih next

namespace Disk

/-! ## Changes -/

/-- A text can be written at the place: it is free or holds a file. -/
def Writable (disk : Disk) (place : Location) : Prop :=
  disk.at? place = none ∨ ∃ content, disk.at? place = some (.file content)

theorem Writable.ne {disk : Disk} {place : Location} {entry : Entry} (h : disk.Writable place)
    (other : ∀ content, entry ≠ .file content) : disk.at? place ≠ some entry := by
  intro held
  rcases h with free | ⟨content, file⟩
  · rw [free] at held
    cases held
  · rw [file] at held
    exact other content (Option.some.inj held).symm

theorem Writable.ne_directory {disk : Disk} {place : Location} (h : disk.Writable place) :
    disk.at? place ≠ some .directory := h.ne (by simp)

theorem Writable.ne_link {disk : Disk} {place : Location} (h : disk.Writable place)
    (target : String) : disk.at? place ≠ some (.link target) := h.ne (by simp)

theorem Writable.ne_nil {disk : Disk} {place : Location} (h : disk.Writable place) : place ≠ [] := by
  rintro rfl
  exact h.ne_directory rfl

/-- Nothing changes from one disk to the other but that directories are made, at some of the paths in
`directories`, and that texts are written to some of the `files`, given by path and text. Paths lead to
places of the second disk. -/
structure ChangesOnly (directories : String → Prop) (files : List (String × String))
    (before after : Disk) : Prop where
  workingDirectory : after.workingDirectory = before.workingDirectory
  places : ∀ place, after.at? place = before.at? place ∨
    (before.at? place = none ∧ after.at? place = some .directory ∧
      ∃ path, directories path ∧ after.locate path = .ok place) ∨
    (before.Writable place ∧
      ∃ file ∈ files, after.locate file.1 = .ok place ∧
        after.at? place = some (.file (.text file.2)))

variable {directories : String → Prop} {files more : List (String × String)}
variable {before middle after : Disk}

theorem ChangesOnly.refl (disk : Disk) : ChangesOnly directories files disk disk :=
  ⟨rfl, fun _ => .inl rfl⟩

theorem ChangesOnly.keeps (h : ChangesOnly directories files before after) :
    Keeps before after where
  workingDirectory := h.workingDirectory
  directory place within := by
    rcases h.places place with same | ⟨free, -⟩ | ⟨writable, -⟩
    · rw [same, within]
    · rw [free] at within
      cases within
    · exact absurd within writable.ne_directory
  link place target := by
    rcases h.places place with same | ⟨free, made, -⟩ | ⟨writable, file, -, -, holds⟩
    · rw [same]
    · rw [free, made]
      constructor <;> exact nofun
    · rw [holds]
      exact ⟨nofun, fun link => absurd link (writable.ne_link target)⟩

/-- A file keeps its content unless it is one of those written to. -/
theorem ChangesOnly.file (h : ChangesOnly directories files before after) {place : Location}
    {content : Content} (held : before.at? place = some (.file content))
    (other : ∀ file ∈ files, after.locate file.1 ≠ .ok place) :
    after.at? place = some (.file content) := by
  rcases h.places place with same | ⟨free, -⟩ | ⟨-, file, mem, leads, -⟩
  · rw [same, held]
  · rw [free] at held
    cases held
  · exact absurd leads (other file mem)

theorem ChangesOnly.trans (h : ChangesOnly directories files before middle)
    (h' : ChangesOnly directories more middle after) :
    ChangesOnly directories (files ++ more) before after := by
  refine ⟨h'.workingDirectory.trans h.workingDirectory, fun place => ?_⟩
  rcases h'.places place with same | ⟨free, made, given⟩ | ⟨writable, file, mem, leads, holds⟩
  · rw [same]
    rcases h.places place with
      same | ⟨free, made, path, mem, leads⟩ | ⟨writable, file, mem, leads, holds⟩
    · exact .inl same
    · exact .inr (.inl ⟨free, made, path, mem, h'.keeps.locate leads⟩)
    · exact .inr (.inr ⟨writable, file, List.mem_append_left _ mem, h'.keeps.locate leads, holds⟩)
  -- What was free in between was free before: nothing that is made or written goes away.
  · rcases h.places place with same | ⟨-, made', -⟩ | ⟨-, file, -, -, holds⟩
    · exact .inr (.inl ⟨same ▸ free, made, given⟩)
    · rw [free] at made'
      cases made'
    · rw [free] at holds
      cases holds
  -- What could be written in between could be written before, for the same reason.
  · refine .inr (.inr ⟨?_, file, List.mem_append_right _ mem, leads, holds⟩)
    rcases h.places place with same | ⟨free, -⟩ | ⟨writable, -⟩
    · rwa [Writable, ← same]
    · exact .inl free
    · exact writable

/-! ## Operations -/

/-- Writing a file or a directory at a place where there can be one keeps where paths lead. -/
theorem keeps_put {disk : Disk} {place : Location} (writable : disk.Writable place) {entry : Entry}
    (plain : ∀ target, entry ≠ .link target) : Keeps disk (disk.put place entry) where
  workingDirectory := rfl
  directory other within := by
    rw [at?_put_of_ne, within]
    rintro rfl
    exact writable.ne_directory within
  link other target := by
    by_cases same : other = place
    · subst same
      rw [at?_put_self _ writable.ne_nil]
      exact ⟨fun link => absurd (Option.some.inj link) (plain target),
        fun link => absurd link (writable.ne_link target)⟩
    · rw [at?_put_of_ne _ same]

theorem makeDirectory_eq_ok {disk made : Disk} {path : String}
    (h : disk.makeDirectory path = .ok made) :
    ∃ place, disk.locate path = .ok place ∧ disk.at? place = none ∧
      made = disk.put place .directory := by
  obtain ⟨place, leads, h⟩ := bind_eq_ok.mp h
  cases free : disk.at? place with
  | some entry => rw [free] at h; cases h
  | none =>
    rw [free] at h
    cases h
    exact ⟨place, locate_of_locateEntry leads (by simp [free]), free, rfl⟩

theorem changes_of_makeDirectory {disk made : Disk} {path : String} (wanted : directories path)
    (h : disk.makeDirectory path = .ok made) : ChangesOnly directories [] disk made := by
  obtain ⟨place, leads, free, rfl⟩ := makeDirectory_eq_ok h
  have writable : disk.Writable place := .inl free
  refine ⟨rfl, fun other => ?_⟩
  by_cases same : other = place
  · subst same
    exact .inr (.inl ⟨free, at?_put_self _ writable.ne_nil _, path, wanted,
      (keeps_put writable (by simp)).locate leads⟩)
  · exact .inl (at?_put_of_ne _ same _)

theorem writeText_eq_ok {disk written : Disk} {path text : String}
    (h : disk.writeText path text = .ok written) :
    ∃ place, disk.locate path = .ok place ∧ disk.Writable place ∧
      written = disk.put place (.file (.text text)) := by
  unfold writeText at h
  split at h
  · obtain ⟨_, -, h⟩ := bind_eq_ok.mp h
    cases h
  · obtain ⟨place, leads, h⟩ := bind_eq_ok.mp h
    refine ⟨place, leads, ?_⟩
    cases found : disk.at? place with
    | none =>
      rw [found] at h
      cases h
      exact ⟨.inl found, rfl⟩
    | some entry =>
      rw [found] at h
      cases entry with
      | directory => cases h
      | link target => cases h
      | file content =>
        cases h
        exact ⟨.inr ⟨content, found⟩, rfl⟩

theorem keeps_of_writeText {disk written : Disk} {path text : String}
    (h : disk.writeText path text = .ok written) : Keeps disk written := by
  obtain ⟨place, -, writable, rfl⟩ := writeText_eq_ok h
  exact keeps_put writable fun target => nofun

theorem changes_of_writeText {disk written : Disk} {path text : String}
    (h : disk.writeText path text = .ok written) :
    ChangesOnly directories [(path, text)] disk written := by
  have kept := keeps_of_writeText h
  obtain ⟨place, leads, writable, rfl⟩ := writeText_eq_ok h
  refine ⟨rfl, fun other => ?_⟩
  by_cases same : other = place
  · subst same
    exact .inr (.inr ⟨writable, (path, text), List.mem_singleton_self _, kept.locate leads,
      at?_put_self _ writable.ne_nil _⟩)
  · exact .inl (at?_put_of_ne _ same _)

/-- Directories are made one by one at the path and at paths around it. What each of these steps keeps
is kept. -/
theorem makeDirectoriesFrom_keeps {P : Disk → Prop} {path : String}
    (step : ∀ inner, Path.Around path inner → ∀ disk made : Disk, P disk →
      disk.makeDirectory inner = .ok made → P made)
    (fuel : Nat) {disk : Disk} (h : P disk) : P (makeDirectoriesFrom fuel path disk).2 := by
  induction fuel generalizing path disk with
  | zero => exact h
  | succ fuel ih =>
    rw [makeDirectoriesFrom]
    split
    · exact h
    · split
      · rename_i made
        exact step path .self disk _ h made
      · split
        · exact h
        · rename_i parent above
          have around : P (makeDirectoriesFrom fuel parent disk).2 :=
            ih (fun inner outer => step inner (outer.of_parent above)) h
          split
          · rename_i made
            rw [made] at around
            exact around
          · rename_i made
            rw [made] at around
            split
            · rename_i last
              exact step path .self _ _ around last
            · exact around
      · exact h

/-- Making a directory makes it and directories around it, whether it succeeds or fails. -/
theorem changes_of_makeDirectories (path : String) (disk : Disk) :
    ChangesOnly (Path.Around path) [] disk (disk.makeDirectories path).2 :=
  makeDirectoriesFrom_keeps
    (fun _ around _ _ changes made => changes.trans (changes_of_makeDirectory around made)) _
    (.refl disk)

end Disk

end Stencil
