import Stencil.Disk

/-! Where steps lead.

* `Disk.Leads`: the rules by which steps lead from place to place, through links.
* `Disk.follow_eq_ok`: following steps finds a place exactly if the rules lead there.
* `Disk.Leads.keep`: what is kept of a disk so that steps lead where they did.
* `Disk.Leads.append`: steps one after the other lead from one place to the next.
* `Disk.Leads.to_end`, `Disk.Leads.to_entry`: stopping at a last link and going through it differ only
  if there is one.
* `Disk.locateWith_eq_ok`: where paths lead. -/

namespace Stencil.Disk
set_option autoImplicit false

/-! ## Rules -/

/-- The steps lead from the first place to the second through at most the given number of links. A link
at the very end is passed only if `through` is set. -/
inductive Leads (disk : Disk) (through : Bool) :
    Nat → List Path.Step → Location → Location → Prop
  | done {links : Nat} {place : Location} : Leads disk through links [] place place
  | here {links : Nat} {rest : List Path.Step} {start place : Location}
      (within : disk.at? start = some .directory) (next : Leads disk through links rest start place) :
      Leads disk through links (.here :: rest) start place
  | up {links : Nat} {rest : List Path.Step} {start place : Location}
      (within : disk.at? start = some .directory)
      (next : Leads disk through links rest start.dropLast place) :
      Leads disk through links (.up :: rest) start place
  | down {links : Nat} {name : String} {rest : List Path.Step} {start place : Location}
      (within : disk.at? start = some .directory) (short : ¬ nameLimit < name.utf8ByteSize)
      (plain : ∀ target, disk.at? (start ++ [name]) ≠ some (.link target))
      (next : Leads disk through links rest (start ++ [name]) place) :
      Leads disk through links (.name name :: rest) start place
  | stop {links : Nat} {name target : String} {start : Location}
      (within : disk.at? start = some .directory) (short : ¬ nameLimit < name.utf8ByteSize)
      (link : disk.at? (start ++ [name]) = some (.link target)) (last : through = false) :
      Leads disk through links [.name name] start (start ++ [name])
  | jump {links : Nat} {name target : String} {rest : List Path.Step} {start place : Location}
      (within : disk.at? start = some .directory) (short : ¬ nameLimit < name.utf8ByteSize)
      (link : disk.at? (start ++ [name]) = some (.link target))
      (onward : rest ≠ [] ∨ through = true)
      (next : Leads disk through links (targetSteps target ++ rest) (startFrom start target) place) :
      Leads disk through (links + 1) (.name name :: rest) start place

variable {disk : Disk} {through : Bool} {links : Nat} {steps : List Path.Step}
variable {start place : Location}

theorem not_stopped {rest : List Path.Step} :
    ¬ (rest.isEmpty && !through) = true ↔ rest ≠ [] ∨ through = true := by
  cases rest <;> cases through <;> simp

/-- One walk obeys the rules, if the jumps that it makes are ones of the rules. -/
theorem leads_of_walk {jump : List Path.Step → Location → Except DiskError Location}
    (jumps : ∀ {name target rest start place}, disk.at? start = some .directory →
      ¬ nameLimit < name.utf8ByteSize → disk.at? (start ++ [name]) = some (.link target) →
      (rest ≠ [] ∨ through = true) →
      jump (targetSteps target ++ rest) (startFrom start target) = .ok place →
      Leads disk through links (.name name :: rest) start place)
    (h : disk.walk through jump steps start = .ok place) :
    Leads disk through links steps start place := by
  induction steps generalizing start with
  | nil =>
    cases h
    exact .done
  | cons step rest ih =>
    unfold walk at h
    cases within : disk.at? start with
    | none => rw [within] at h; cases h
    | some entry =>
      rw [within] at h
      cases entry with
      | file content => cases h
      | link target => cases h
      | directory =>
        cases step with
        | here => exact .here within (ih h)
        | up => exact .up within (ih h)
        | name name =>
          dsimp only at h
          split at h
          · cases h
          · rename_i short
            split at h
            · rename_i target link
              split at h
              · rename_i stopped
                cases h
                obtain ⟨nothing, last⟩ := Bool.and_eq_true_iff.mp stopped
                rw [List.isEmpty_iff.mp nothing]
                exact .stop within short link (by simpa using last)
              · rename_i onward
                exact jumps within short link (not_stopped.mp onward) h
            · rename_i plain
              exact .down within short plain (ih h)

/-- Following steps finds exactly the place that they lead to. -/
theorem follow_eq_ok :
    disk.follow through links steps start = .ok place ↔ Leads disk through links steps start place := by
  constructor
  · intro h
    induction links generalizing steps start place with
    | zero =>
      refine leads_of_walk ?_ h
      intro _ _ _ _ _ _ _ _ _ none
      cases none
    | succ links ih =>
      exact leads_of_walk (fun within short link onward next => .jump within short link onward (ih next))
        h
  · intro h
    induction h with
    | @done links => cases links <;> rfl
    | @here links _ _ _ within _ ih | @up links _ _ _ within _ ih =>
      cases links <;> simpa only [follow, walk, within] using ih
    | @down links name rest start place within short plain next ih =>
      cases links <;> simpa only [follow, walk, within, if_neg short, plain] using ih
    | @stop links name target start within short link last =>
      cases links <;> simp [follow, walk, within, short, link, last]
    | @jump links name target rest start place within short link onward next ih =>
      simp only [follow, walk, within, if_neg short, link, if_neg (not_stopped.mpr onward)]
      exact ih

theorem Leads.unique {other : Location} (h : Leads disk through links steps start place)
    (h' : Leads disk through links steps start other) : other = place := by
  have same := (follow_eq_ok.mpr h').symm.trans (follow_eq_ok.mpr h)
  exact Except.ok.inj same

/-! ## Disks that are alike on the way -/

/-- All that steps depend on is kept: directories, links, and what is no link. -/
structure Keeps (before after : Disk) : Prop where
  workingDirectory : after.workingDirectory = before.workingDirectory
  directory : ∀ place, before.at? place = some .directory → after.at? place = some .directory
  link : ∀ place target,
    after.at? place = some (.link target) ↔ before.at? place = some (.link target)

theorem Leads.keep {before after : Disk} (kept : Keeps before after)
    (h : Leads before through links steps start place) :
    Leads after through links steps start place := by
  induction h with
  | done => exact .done
  | here within _ ih => exact .here (kept.directory _ within) ih
  | up within _ ih => exact .up (kept.directory _ within) ih
  | down within short plain _ ih =>
    refine .down (kept.directory _ within) short (fun target link => ?_) ih
    exact plain target ((kept.link _ target).mp link)
  | stop within short link last =>
    exact .stop (kept.directory _ within) short ((kept.link _ _).mpr link) last
  | jump within short link onward _ ih =>
    exact .jump (kept.directory _ within) short ((kept.link _ _).mpr link) onward ih

/-! ## Parts of the way -/

/-- Steps one after the other lead on from the place to which the first ones lead through all links.
What is left of the links is for the others. -/
theorem Leads.append {front back : List Path.Step} (more : back ≠ [])
    (h : Leads disk through links (front ++ back) start place) :
    ∃ base left, Leads disk true links front start base ∧
      Leads disk through left back base place := by
  have stay {links : Nat} {steps : List Path.Step} {start place : Location}
      (h : Leads disk through links steps start place) (whole : [] ++ back = steps) :
      ∃ base left, Leads disk true links [] start base ∧
        Leads disk through left back base place := by
    subst whole
    exact ⟨start, links, .done, h⟩
  -- The links that are met on the way put steps in front of those that are left, so the first steps
  -- are any list that stands before the last ones.
  generalize whole : front ++ back = steps at h
  induction h generalizing front with
  | done =>
    obtain ⟨-, rfl⟩ := List.append_eq_nil_iff.mp whole
    exact absurd rfl more
  | here within next ih =>
    cases front with
    | nil => exact stay (.here within next) whole
    | cons step front =>
      obtain ⟨rfl, rest⟩ := List.cons.inj whole
      obtain ⟨base, left, first, last⟩ := ih rest
      exact ⟨base, left, .here within first, last⟩
  | up within next ih =>
    cases front with
    | nil => exact stay (.up within next) whole
    | cons step front =>
      obtain ⟨rfl, rest⟩ := List.cons.inj whole
      obtain ⟨base, left, first, last⟩ := ih rest
      exact ⟨base, left, .up within first, last⟩
  | down within short plain next ih =>
    cases front with
    | nil => exact stay (.down within short plain next) whole
    | cons step front =>
      obtain ⟨rfl, rest⟩ := List.cons.inj whole
      obtain ⟨base, left, first, last⟩ := ih rest
      exact ⟨base, left, .down within short plain first, last⟩
  | stop within short link last =>
    cases front with
    | nil => exact stay (.stop within short link last) whole
    | cons step front =>
      obtain ⟨-, rest⟩ := List.cons.inj whole
      exact absurd (List.append_eq_nil_iff.mp rest).2 more
  | jump within short link onward next ih =>
    cases front with
    | nil => exact stay (.jump within short link onward next) whole
    | cons step front =>
      obtain ⟨rfl, rfl⟩ := List.cons.inj whole
      obtain ⟨base, left, first, last⟩ := ih (List.append_assoc ..)
      exact ⟨base, left, .jump within short link (.inr rfl) first, last⟩

/-! ## Links at the end -/

/-- If there is no link at the end, it makes no difference whether it would be passed. -/
theorem Leads.to_end (h : Leads disk false links steps start place)
    (plain : ∀ target, disk.at? place ≠ some (.link target)) :
    Leads disk true links steps start place := by
  induction h with
  | done => exact .done
  | here within _ ih => exact .here within (ih plain)
  | up within _ ih => exact .up within (ih plain)
  | down within short free _ ih => exact .down within short free (ih plain)
  | stop _ _ link _ => exact absurd link (plain _)
  | jump within short link _ _ ih => exact .jump within short link (.inr rfl) (ih plain)

/-- Where a way through all links ends, one that stops at a last link ends too, or else at a link. -/
theorem Leads.to_entry (h : Leads disk true links steps start place) :
    ∃ entry, Leads disk false links steps start entry ∧
      (entry = place ∨ ∃ target, disk.at? entry = some (.link target)) := by
  induction h with
  | @done links place => exact ⟨place, .done, .inl rfl⟩
  | here within _ ih =>
    obtain ⟨entry, leads, same⟩ := ih
    exact ⟨entry, .here within leads, same⟩
  | up within _ ih =>
    obtain ⟨entry, leads, same⟩ := ih
    exact ⟨entry, .up within leads, same⟩
  | down within short plain _ ih =>
    obtain ⟨entry, leads, same⟩ := ih
    exact ⟨entry, .down within short plain leads, same⟩
  | stop _ _ _ last => cases last
  | @jump links name target rest start place within short link _ _ ih =>
    cases rest with
    | nil => exact ⟨_, .stop within short link rfl, .inr ⟨target, link⟩⟩
    | cons step rest =>
      obtain ⟨entry, leads, same⟩ := ih
      exact ⟨entry, .jump within short link (.inl (List.cons_ne_nil step rest)) leads, same⟩

/-! ## Paths -/

theorem locateWith_eq_ok {path : String} :
    disk.locateWith through path = .ok place ↔
      (¬ path.toList.contains '\x00' ∧ ¬ path.isEmpty ∧ ¬ pathLimit < path.utf8ByteSize) ∧
        Leads disk through linkLimit (Path.steps path) (startFrom disk.workingDirectory path)
          place := by
  rw [← follow_eq_ok]
  unfold locateWith
  split
  · simp_all
  · split
    · simp_all
    · split <;> simp_all

theorem Keeps.locate {before after : Disk} (kept : Keeps before after) {path : String}
    (leads : before.locate path = .ok place) : after.locate path = .ok place := by
  obtain ⟨sound, leads⟩ := locateWith_eq_ok.mp leads
  refine locateWith_eq_ok.mpr ⟨sound, ?_⟩
  rw [kept.workingDirectory]
  exact leads.keep kept

/-- Where there is no link, a path leads to the entry that it names. -/
theorem locate_of_locateEntry {path : String} (leads : disk.locateEntry path = .ok place)
    (plain : ∀ target, disk.at? place ≠ some (.link target)) : disk.locate path = .ok place := by
  obtain ⟨sound, leads⟩ := locateWith_eq_ok.mp leads
  exact locateWith_eq_ok.mpr ⟨sound, leads.to_end plain⟩

theorem locateEntry_of_locate {path : String} (leads : disk.locate path = .ok place)
    (plain : disk.isLink path = false) : disk.locateEntry path = .ok place := by
  obtain ⟨sound, leads⟩ := locateWith_eq_ok.mp leads
  obtain ⟨entry, named, same⟩ := leads.to_entry
  have found : disk.locateEntry path = .ok entry := locateWith_eq_ok.mpr ⟨sound, named⟩
  rcases same with rfl | ⟨target, link⟩
  · exact found
  · rw [isLink, found] at plain
    simp [link] at plain

end Stencil.Disk
