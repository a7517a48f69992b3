import Stencil.Proofs.DiskChanges

/-! Where the files of a directory are.

* `Path.split_append`, `Path.not_mem_of_mem_split`: what slashes divide a path into.
* `Path.parts_join`: a name without slashes adds one part to the path of a directory.
* `Disk.exists_base`: such a name names the entry at the place of the directory with the name after it,
  so that different names lead to different places unless one of them is a link, see
  `Disk.locate_join_inj`. -/

namespace Stencil
set_option autoImplicit false

namespace Path

/-! ## Parts -/

theorem exists_split (cs : List Char) : ∃ part parts, split cs = part :: parts := by
  cases cs with
  | nil => exact ⟨[], [], rfl⟩
  | cons c rest =>
    rw [split]
    split
    · exact ⟨_, _, rfl⟩
    · split
      · exact ⟨_, _, rfl⟩
      · exact ⟨_, _, rfl⟩

theorem split_cons {c : Char} {cs part : List Char} {parts : List (List Char)}
    (h : split cs = part :: parts) :
    split (c :: cs) = if c == '/' then [] :: part :: parts else (c :: part) :: parts := by
  rw [split, h]

/-- A slash divides the path. -/
theorem split_append (front back : List Char) :
    split (front ++ '/' :: back) = split front ++ split back := by
  induction front with
  | nil =>
    obtain ⟨part, parts, h⟩ := exists_split back
    rw [List.nil_append, split_cons h, h]
    rfl
  | cons c front ih =>
    obtain ⟨part, parts, h⟩ := exists_split front
    have longer : split (front ++ '/' :: back) = part :: (parts ++ split back) := by
      rw [ih, h, List.cons_append]
    rw [List.cons_append, split_cons longer, split_cons h]
    split <;> rfl

theorem split_of_not_mem {cs : List Char} (h : '/' ∉ cs) : split cs = [cs] := by
  induction cs with
  | nil => rfl
  | cons c cs ih =>
    have other : ¬ (c == '/') = true := fun same =>
      h (beq_iff_eq.mp same ▸ List.mem_cons_self ..)
    rw [split_cons (ih fun mem => h (List.mem_cons_of_mem c mem)), if_neg other]

theorem not_mem_of_mem_split {cs part : List Char} (mem : part ∈ split cs) : '/' ∉ part := by
  induction cs generalizing part with
  | nil =>
    rw [List.mem_singleton.mp mem]
    exact List.not_mem_nil
  | cons c cs ih =>
    obtain ⟨first, parts, h⟩ := exists_split cs
    rw [h] at ih
    rw [split_cons h] at mem
    split at mem
    · rcases List.mem_cons.mp mem with rfl | mem
      · exact List.not_mem_nil
      · exact ih mem
    · rename_i other
      rcases List.mem_cons.mp mem with rfl | mem
      · intro slash
        rcases List.mem_cons.mp slash with rfl | slash
        · exact other rfl
        · exact ih (List.mem_cons_self ..) slash
      · exact ih (List.mem_cons_of_mem _ mem)

theorem not_mem_of_mem_parts {path part : String} (mem : part ∈ parts path) :
    '/' ∉ part.toList := by
  obtain ⟨chars, among, rfl⟩ := List.mem_map.mp mem
  rw [String.toList_ofList]
  exact not_mem_of_mem_split (List.mem_filter.mp among).1

theorem mem_parts_of_fileName? {path name : String} (found : fileName? path = some name) :
    name ∈ parts path := by
  have last : name ∈ components path := by
    unfold fileName? at found
    split at found
    · rename_i last there
      split at found
      · cases found
      · cases found
        exact List.mem_of_getLast? there
    · cases found
  unfold components at last
  split at last
  · cases last
  · rename_i first rest whole
    rw [whole]
    rcases List.mem_append.mp last with front | back
    · split at front
      · cases front
      · exact List.mem_singleton.mp front ▸ List.mem_cons_self ..
    · exact List.mem_cons_of_mem _ (List.mem_filter.mp back).1

theorem mem_of_mem_stemOf {name : String} {c : Char} (mem : c ∈ (stemOf name).toList) :
    c ∈ name.toList := by
  unfold stemOf at mem
  split at mem
  · exact mem
  · rw [String.toList_ofList, List.mem_reverse] at mem
    have kept := (List.dropWhile_sublist _).subset (List.mem_of_mem_drop mem)
    exact List.mem_reverse.mp kept

theorem not_mem_of_stem? {path stem : String} (found : stem? path = some stem) :
    '/' ∉ stem.toList := by
  obtain ⟨name, there, rfl⟩ := Option.map_eq_some_iff.mp found
  have plain := not_mem_of_mem_parts (mem_parts_of_fileName? there)
  exact fun slash => plain (mem_of_mem_stemOf slash)

/-! ## Names in a directory -/

/-- The name can be that of a file: it is one part of a path, and leads down. -/
structure IsName (name : String) : Prop where
  plain : '/' ∉ name.toList
  ne_empty : name ≠ ""
  ne_here : name ≠ "."
  ne_up : name ≠ ".."

variable {directory name : String}

theorem IsName.stepOf (h : IsName name) : Path.stepOf name = .name name := by
  rw [Path.stepOf, if_neg h.ne_here, if_neg h.ne_up]

theorem IsName.toList_ne_nil (h : IsName name) : name.toList ≠ [] :=
  fun empty => h.ne_empty (String.toList_inj.mp empty)

theorem parts_of_name (h : IsName name) : parts name = [name] := by
  rw [parts, split_of_not_mem h.plain]
  simp [h.toList_ne_nil]

theorem parts_append (front : List Char) (name : String) :
    parts (String.ofList (front ++ '/' :: name.toList)) =
      parts (String.ofList front) ++ parts name := by
  rw [parts, parts, parts, String.toList_ofList, String.toList_ofList, split_append,
    List.filter_append, List.map_append]

theorem parts_join (directory : String) (h : IsName name) :
    parts (join directory name) = parts directory ++ [name] := by
  rw [join, ← parts_of_name h]
  by_cases empty : directory = ""
  · subst empty
    rw [if_pos (by rfl), String.empty_append]
    rfl
  · by_cases slash : endsInSlash directory
    · -- The slash that divides the two is already there.
      obtain ⟨front, same⟩ := List.getLast?_eq_some_iff.mp (beq_iff_eq.mp slash)
      have whole : directory ++ name = String.ofList (front ++ '/' :: name.toList) := by
        rw [← String.toList_inj, String.toList_append, same, String.toList_ofList]
        simp
      have shorter : directory = String.ofList (front ++ '/' :: "".toList) := by
        rw [← String.toList_inj, same, String.toList_ofList]
        rfl
      have nothing : parts "" = [] := rfl
      rw [if_pos (by rw [slash, Bool.or_true]), whole, parts_append, shorter, parts_append, nothing,
        List.append_nil]
    · have whole : directory ++ "/" ++ name =
          String.ofList (directory.toList ++ '/' :: name.toList) := by
        rw [← String.toList_inj, String.toList_append, String.toList_append, String.toList_ofList]
        simp
      have neither : ¬ (directory.isEmpty || endsInSlash directory) = true := by
        simp [empty, slash]
      rw [if_neg neither, whole, parts_append, String.ofList_toList]

theorem steps_join (directory : String) (h : IsName name) :
    steps (join directory name) = steps directory ++ [.name name] := by
  rw [steps, parts_join directory h, List.map_append, List.map_singleton, h.stepOf, steps]

theorem isAbsolute_join (directory : String) (h : IsName name) :
    isAbsolute (join directory name) = isAbsolute directory := by
  unfold isAbsolute join
  cases chars : directory.toList with
  | nil =>
    have empty : directory = "" := String.toList_inj.mp chars
    have other : name.toList.head? ≠ some '/' := fun first => h.plain (List.mem_of_head? first)
    rw [empty, if_pos (by rfl), String.empty_append]
    simpa using other
  | cons c rest => split <;> simp [String.toList_append, chars]

theorem endsInSlash_join (directory : String) (h : IsName name) :
    endsInSlash (join directory name) = false := by
  have last : ∃ front, (join directory name).toList = front ++ name.toList := by
    rw [join]
    split
    · exact ⟨_, String.toList_append⟩
    · exact ⟨_, String.toList_append⟩
  obtain ⟨front, whole⟩ := last
  rw [endsInSlash, whole, List.getLast?_append, beq_eq_false_iff_ne]
  cases found : name.toList.getLast? with
  | none => exact absurd (List.getLast?_eq_none_iff.mp found) h.toList_ne_nil
  | some c =>
    rw [Option.some_or]
    rintro ⟨⟩
    exact h.plain (List.mem_of_getLast? found)

end Path

/-! ## Places in a directory -/

namespace Disk

open Stencil.Path Outcome

variable {disk : Disk} {directory name : String} {place : Location}

theorem leads_name {through : Bool} {links : Nat} {base : Location}
    (leads : Leads disk through links [.name name] base place) :
    place = base ++ [name] ∨ through = true := by
  cases leads with
  | down _ _ _ next =>
    cases next
    exact .inl rfl
  | stop => exact .inl rfl
  | jump _ _ _ onward _ => exact .inr (onward.resolve_left fun more => more rfl)

/-- The names in a directory name one entry each, at the place of the directory with the name after
it. -/
theorem exists_base (disk : Disk) (directory : String) :
    ∃ base : Location, ∀ name, IsName name → ∀ place,
      disk.locateEntry (join directory name) = .ok place → place = base ++ [name] := by
  let start := startFrom disk.workingDirectory directory
  have leads_below {name : String} {place : Location} (h : IsName name)
      (leads : disk.locateEntry (join directory name) = .ok place) :
      ∃ base, Leads disk true linkLimit (steps directory) start base ∧ place = base ++ [name] := by
    have leads := (locateWith_eq_ok.mp leads).2
    rw [steps_join directory h, startFrom, isAbsolute_join directory h] at leads
    obtain ⟨base, left, reached, last⟩ := leads.append (List.cons_ne_nil _ _)
    exact ⟨base, reached, (leads_name last).resolve_right Bool.false_ne_true⟩
  -- The directory leads to the same place for all names; if it leads nowhere, no name does.
  by_cases there : ∃ base, Leads disk true linkLimit (steps directory) start base
  · obtain ⟨base, reached⟩ := there
    refine ⟨base, fun name h place leads => ?_⟩
    obtain ⟨other, found, rfl⟩ := leads_below h leads
    rw [reached.unique found]
  · refine ⟨[], fun name h place leads => ?_⟩
    obtain ⟨base, found, -⟩ := leads_below h leads
    exact absurd ⟨base, found⟩ there

/-- Different names in a directory lead to different places, unless one of them is that of a link. -/
theorem locate_join_inj {other : String} (h : IsName name) (h' : IsName other)
    (plain : disk.isLink (join directory name) = false)
    (plain' : disk.isLink (join directory other) = false)
    (leads : disk.locate (join directory name) = .ok place)
    (leads' : disk.locate (join directory other) = .ok place) : name = other := by
  obtain ⟨base, below⟩ := disk.exists_base directory
  have first := below name h place (locateEntry_of_locate leads plain)
  have second := below other h' place (locateEntry_of_locate leads' plain')
  exact (List.cons.inj (List.append_cancel_left (first.symm.trans second))).1

theorem readText_eq_ok {path text : String} (leads : disk.locate path = .ok place)
    (held : disk.at? place = some (.file (.text text))) (file : endsInSlash path = false) :
    disk.readText path = .ok text := by
  have found : disk.lookup path = .ok (.file (.text text)) := by
    simp only [lookup, leads, bind, Except.bind, held, file]
    rfl
  rw [readText, found]
  rfl

end Disk

end Stencil
