/-! Maps from names to values that keep the order in which names were first inserted.

* `OrderedMap`: a list of entries.
* `OrderedMap.get?`, `OrderedMap.insert`: look-up by name; inserting a name that is present replaces
  its value and keeps its place.
* `OrderedMap.Distinct`: no name occurs twice. Inserting keeps this, see `distinct_insert`. -/

namespace Stencil
set_option autoImplicit false

/-- Entries in the order in which their names were first inserted. -/
abbrev OrderedMap (α : Type) := List (String × α)

namespace OrderedMap

variable {α : Type}

/-- The value of the first entry with the given name. -/
def get? (name : String) : OrderedMap α → Option α
  | [] => none
  | (key, value) :: rest => if key = name then some value else get? name rest

/-- Sets the value of a name. A new name comes last. -/
def insert (name : String) (value : α) : OrderedMap α → OrderedMap α
  | [] => [(name, value)]
  | (key, old) :: rest =>
    if key = name then (key, value) :: rest else (key, old) :: insert name value rest

/-- The names, in order. -/
def names (map : OrderedMap α) : List String := map.map Prod.fst

/-- No name occurs twice. -/
def Distinct (map : OrderedMap α) : Prop := map.names.Nodup

/-- An entry that is looked up is there. -/
theorem mem_of_get? {name : String} {value : α} {map : OrderedMap α}
    (h : map.get? name = some value) : (name, value) ∈ map := by
  induction map with
  | nil => cases h
  | cons entry rest ih =>
    obtain ⟨key, first⟩ := entry
    rw [get?] at h
    by_cases hk : key = name
    · rw [if_pos hk] at h
      cases h
      exact hk ▸ List.mem_cons_self ..
    · rw [if_neg hk] at h
      exact List.mem_cons_of_mem _ (ih h)

/-- A name occurs if and only if it can be looked up. -/
theorem mem_names_iff {name : String} {map : OrderedMap α} :
    name ∈ map.names ↔ (map.get? name).isSome := by
  induction map with
  | nil => simp [names, get?]
  | cons entry rest ih =>
    obtain ⟨key, value⟩ := entry
    rw [get?]
    by_cases same : key = name
    · simp [names, same]
    · rw [if_neg same, ← ih]
      simp [names, Ne.symm same]

/-- Where no name occurs twice, every entry can be looked up. -/
theorem get?_of_mem {name : String} {value : α} {map : OrderedMap α} (distinct : map.Distinct)
    (mem : (name, value) ∈ map) : map.get? name = some value := by
  induction map with
  | nil => cases mem
  | cons entry rest ih =>
    obtain ⟨key, first⟩ := entry
    obtain ⟨new, others⟩ := List.nodup_cons.mp distinct
    rw [get?]
    rcases List.mem_cons.mp mem with same | mem
    · cases same
      rw [if_pos rfl]
    · have present : name ∈ names rest := List.mem_map_of_mem mem
      have other : key ≠ name := fun same => new (same ▸ present)
      rw [if_neg other]
      exact ih others mem

/-- Looking up commutes with a change of all values. -/
theorem get?_map {β : Type} (f : String → α → β) (name : String) (map : OrderedMap α) :
    get? name (map.map fun entry => (entry.1, f entry.1 entry.2)) =
      (get? name map).map (f name) := by
  induction map with
  | nil => rfl
  | cons entry rest ih =>
    rw [List.map_cons, get?, get?, ih]
    split
    · rename_i same
      rw [same]
      rfl
    · rfl

/-! ## Laws of insertion -/

theorem get?_insert_self (name : String) (value : α) (map : OrderedMap α) :
    get? name (insert name value map) = some value := by
  induction map with
  | nil => simp [insert, get?]
  | cons entry rest ih =>
    obtain ⟨key, old⟩ := entry
    by_cases h : key = name <;> simp [insert, get?, h, ih]

theorem get?_insert_of_ne {name other : String} (h : other ≠ name) (value : α)
    (map : OrderedMap α) : get? other (insert name value map) = get? other map := by
  induction map with
  | nil => simp [insert, get?, Ne.symm h]
  | cons entry rest ih =>
    obtain ⟨key, old⟩ := entry
    by_cases hk : key = name
    · subst hk
      simp [insert, get?, Ne.symm h]
    · simp [insert, get?, hk, ih]

/-- An entry after an insertion is the inserted one or was there before. -/
theorem mem_of_mem_insert {name : String} {value : α} {map : OrderedMap α} {entry : String × α}
    (h : entry ∈ insert name value map) : entry = (name, value) ∨ entry ∈ map := by
  induction map with
  | nil => exact .inl (List.mem_singleton.mp h)
  | cons first rest ih =>
    rw [insert] at h
    split at h
    · rename_i same
      rcases List.mem_cons.mp h with rfl | h
      · exact .inl (by rw [same])
      · exact .inr (List.mem_cons_of_mem _ h)
    · rcases List.mem_cons.mp h with rfl | h
      · exact .inr (List.mem_cons_self ..)
      · exact (ih h).imp id (List.mem_cons_of_mem _)

/-- Inserting a present name keeps the names; a new name comes last. -/
theorem names_insert (name : String) (value : α) (map : OrderedMap α) :
    (insert name value map).names =
      if name ∈ map.names then map.names else map.names ++ [name] := by
  induction map with
  | nil => simp [insert, names]
  | cons entry rest ih =>
    obtain ⟨key, old⟩ := entry
    by_cases hk : key = name
    · simp [insert, names, hk]
    · simp only [names] at ih
      by_cases hm : name ∈ rest.map Prod.fst
      · simp_all [insert, names]
      · simp_all [insert, names, Ne.symm hk]

theorem distinct_insert (name : String) (value : α) {map : OrderedMap α} (h : map.Distinct) :
    (insert name value map).Distinct := by
  unfold Distinct at *
  rw [names_insert]
  split
  · exact h
  · rename_i hm
    exact List.nodup_append.2 ⟨h, by simp, by
      intro a ha b hb
      simp only [List.mem_singleton] at hb
      subst hb
      exact fun e => hm (e ▸ ha)⟩

theorem distinct_nil : Distinct ([] : OrderedMap α) := List.nodup_nil

end OrderedMap

end Stencil
