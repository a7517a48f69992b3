import Stencil.Cli.Run
import Stencil.Proofs.DiskChanges

/-! Disks stay in order.

* `Disk.Leads.arrives`: on a disk in order, a path leads to a place in a directory, and never to a link
  that it would have to go through.
* `Disk.WellPlaced.put`: writing such a place keeps the disk in order.
* `Cli.run_wellPlaced`: so does every run. -/

namespace Stencil
set_option autoImplicit false

open Outcome

namespace Disk

variable {disk : Disk}

/-- The place lies in a directory and holds no link. -/
def Open (disk : Disk) (place : Location) : Prop :=
  disk.at? place.dropLast = some .directory ∧ ∀ target, disk.at? place ≠ some (.link target)

theorem WellPlaced.open_of_directory (h : disk.WellPlaced) {place : Location}
    (within : disk.at? place = some .directory) : disk.Open place := by
  refine ⟨h.around place _ within, fun target => ?_⟩
  rw [within]
  exact nofun

theorem WellPlaced.open_startFrom (h : disk.WellPlaced) {directory : Location}
    (within : disk.at? directory = some .directory) (path : String) :
    disk.Open (startFrom directory path) := by
  unfold startFrom
  split
  · exact h.open_of_directory rfl
  · exact h.open_of_directory within

theorem Leads.arrives {links : Nat} {steps : List Path.Step} {start place : Location}
    (h : disk.WellPlaced) (leads : Leads disk true links steps start place)
    (started : disk.Open start) : disk.Open place := by
  induction leads with
  | done => exact started
  | here _ _ ih => exact ih started
  | @up _ _ start _ within _ ih => exact ih (h.open_of_directory (h.around start _ within))
  | @down _ name _ start _ within _ plain _ ih =>
    refine ih ⟨?_, plain⟩
    rwa [List.dropLast_concat]
  | stop _ _ _ last => cases last
  | jump within _ _ _ _ ih => exact ih (h.open_startFrom within _)

theorem WellPlaced.arrives (h : disk.WellPlaced) {path : String} {place : Location}
    (leads : disk.locate path = .ok place) : disk.Open place :=
  (locateWith_eq_ok.mp leads).2.arrives h (h.open_startFrom h.working path)

theorem WellPlaced.put (h : disk.WellPlaced) {place : Location} (arrived : disk.Open place)
    (writable : disk.Writable place) (entry : Entry) : (disk.put place entry).WellPlaced where
  working := by
    have other : disk.workingDirectory ≠ place := by
      rintro rfl
      exact writable.ne_directory h.working
    exact (at?_put_of_ne disk other entry).trans h.working
  around inner held there := by
    -- The place itself is no directory, so that it is not the one around another place.
    have kept : ∀ outer, disk.at? outer = some .directory →
        (disk.put place entry).at? outer = some .directory := by
      intro outer within
      have other : outer ≠ place := by
        rintro rfl
        exact writable.ne_directory within
      rw [at?_put_of_ne disk other, within]
    by_cases same : inner = place
    · subst same
      exact kept _ arrived.1
    · rw [at?_put_of_ne disk same] at there
      exact kept _ (h.around inner held there)

theorem WellPlaced.makeDirectory (h : disk.WellPlaced) {path : String} {made : Disk}
    (ok : disk.makeDirectory path = .ok made) : made.WellPlaced := by
  obtain ⟨place, leads, free, rfl⟩ := makeDirectory_eq_ok ok
  exact h.put (h.arrives leads) (.inl free) _

theorem WellPlaced.makeDirectories (h : disk.WellPlaced) (path : String) :
    (disk.makeDirectories path).2.WellPlaced :=
  makeDirectoriesFrom_keeps (fun _ _ _ _ ordered made => ordered.makeDirectory made) _ h

theorem WellPlaced.writeText (h : disk.WellPlaced) {path text : String} {written : Disk}
    (ok : disk.writeText path text = .ok written) : written.WellPlaced := by
  obtain ⟨place, leads, writable, rfl⟩ := writeText_eq_ok ok
  exact h.put (h.arrives leads) writable _

end Disk

namespace Cli

variable {disk : Disk}

theorem writeFiles_wellPlaced (directory : String) (templates : List Template)
    (h : disk.WellPlaced) : (writeFiles directory templates disk).disk.WellPlaced := by
  induction templates generalizing disk with
  | nil => exact h
  | cons template rest ih =>
    rw [writeFiles]
    cases wrote : disk.writeText (targetOf directory template) (template.source ++ "\n") with
    | error e => exact h
    | ok written => exact ih (h.writeText wrote)

theorem compile_wellPlaced (request : CompileRequest) (h : disk.WellPlaced) :
    (compile request disk).disk.WellPlaced := by
  rw [compile]
  cases prepare disk request with
  | error message => exact h
  | ok templates =>
    cases request.outDirectory with
    | none => exact h
    | some directory =>
      have around := h.makeDirectories directory
      simp only [writeTemplates]
      split
      · rename_i made
        rw [made] at around
        exact around
      · rename_i made
        rw [made] at around
        exact writeFiles_wellPlaced directory templates around

theorem init_wellPlaced (path : String) (h : disk.WellPlaced) :
    (init path disk).disk.WellPlaced := by
  have around := h.makeDirectories path
  unfold init
  dsimp only
  split
  · exact h
  · split
    · rename_i made
      rw [made] at around
      exact around
    · rename_i made
      rw [made] at around
      split
      · exact around
      · rename_i wrote
        exact around.writeText wrote

theorem disk_validateFiles (count : Nat) (paths : List String) (disk : Disk) :
    (validateFiles count paths disk).disk = disk := by
  induction paths generalizing count with
  | nil => rfl
  | cons path rest ih =>
    rw [validateFiles]
    cases readTree disk path with
    | error message => rfl
    | ok tree =>
      dsimp only
      split <;> exact ih _

/-- Every run keeps a disk in order. -/
theorem run_wellPlaced (request : Request) (h : disk.WellPlaced) :
    (run request disk).disk.WellPlaced := by
  cases request with
  | compile request => exact compile_wellPlaced request h
  | validate trees =>
    rw [run, validate]
    split
    · exact h
    · rwa [disk_validateFiles]
  | handlers => exact h
  | schema => exact h
  | init path => exact init_wellPlaced path h

end Cli

end Stencil
