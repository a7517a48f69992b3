import Stencil.Scope

/-! Laws of scopes.

* `Scope.mem_names_iff`: a scope has a variable if and only if it has a value for it.
* `Scope.get?_insert_self`, `Scope.get?_insert_of_ne`: what setting a variable changes.
* `Scope.get?_overlay`: data win over the variables around them.
* `Scope.get?_pass`: what is passed on comes from the data or from a variable that is named.
* `Scope.pass_congr`: what is passed on depends on the named variables only.
* `Scope.Ordered`: the names of a scope increase. Setting variables keeps this, see `Ordered.insert`. -/

namespace Stencil.Scope
set_option autoImplicit false

/-! ## Names -/

theorem get?_eq_orderedMap (name : String) (scope : Scope) :
    scope.get? name = OrderedMap.get? name scope := by
  induction scope with
  | nil => rfl
  | cons entry rest ih =>
    obtain ⟨key, value⟩ := entry
    unfold get? at ih ⊢
    rw [Json.member?, OrderedMap.get?, ih]

theorem mem_names_iff {name : String} {scope : Scope} :
    name ∈ scope.names ↔ (scope.get? name).isSome := by
  rw [get?_eq_orderedMap]
  exact OrderedMap.mem_names_iff

theorem get?_eq_none {name : String} {scope : Scope} (absent : name ∉ scope.names) :
    scope.get? name = none := by
  rw [mem_names_iff] at absent
  simpa using absent

/-! ## Setting a variable -/

theorem get?_insert_self (name : String) (value : Json) (scope : Scope) :
    (scope.insert name value).get? name = some value := by
  unfold get? insert
  induction scope with
  | nil => simp [Json.insertMember, Json.member?]
  | cons entry rest ih =>
    obtain ⟨key, old⟩ := entry
    rw [Json.insertMember]
    split
    · simp [Json.member?]
    · by_cases same : key = name
      · simp [Json.member?, same]
      · simp [Json.member?, same, ih]

theorem get?_insert_of_ne {name other : String} (ne : other ≠ name) (value : Json)
    (scope : Scope) : (scope.insert name value).get? other = scope.get? other := by
  unfold get? insert
  induction scope with
  | nil => simp [Json.insertMember, Json.member?, Ne.symm ne]
  | cons entry rest ih =>
    obtain ⟨key, old⟩ := entry
    rw [Json.insertMember]
    split
    · simp [Json.member?, Ne.symm ne]
    · by_cases same : key = name
      · simp [Json.member?, same, Ne.symm ne]
      · simp [Json.member?, same, ih]

/-! ## Setting many -/

theorem get?_overlay {data : Scope} (distinct : data.names.Nodup) (ambient : Scope)
    (name : String) : (data.overlay ambient).get? name = (data.get? name).or (ambient.get? name) := by
  -- The entries are set one after the other, so the scope that they are set in is general.
  induction data generalizing ambient with
  | nil => rfl
  | cons entry rest ih =>
    obtain ⟨key, value⟩ := entry
    obtain ⟨new, others⟩ := List.nodup_cons.mp distinct
    have step := ih others (ambient.insert key value)
    by_cases same : key = name
    · subst same
      rw [get?_eq_none new, get?_insert_self] at step
      have first : get? key ((key, value) :: rest) = some value := if_pos rfl
      rw [first]
      exact step
    · rw [get?_insert_of_ne (Ne.symm same)] at step
      have first : get? name ((key, value) :: rest) = get? name rest := if_neg same
      rw [first]
      exact step

theorem get?_pass {data source : Scope} {names : List (String × String)} {name : String}
    {value : Json} (found : (data.pass names source).get? name = some value) :
    data.get? name = some value ∨
      ∃ former, (name, former) ∈ names ∧ source.get? former = some value := by
  induction names generalizing data with
  | nil => exact .inl found
  | cons pair rest ih =>
    obtain ⟨target, former⟩ := pair
    rcases ih found with before | ⟨other, mem, present⟩
    · cases present : source.get? former with
      | none =>
        simp only [present] at before
        exact .inl before
      | some passed =>
        simp only [present] at before
        by_cases same : name = target
        · subst same
          rw [get?_insert_self] at before
          exact .inr ⟨former, List.mem_cons_self .., present.trans before⟩
        · rw [get?_insert_of_ne same] at before
          exact .inl before
    · exact .inr ⟨other, List.mem_cons_of_mem _ mem, present⟩

theorem pass_congr (data : Scope) {names : List (String × String)} {source other : Scope}
    (agree : ∀ pair ∈ names, source.get? pair.2 = other.get? pair.2) :
    data.pass names source = data.pass names other := by
  induction names generalizing data with
  | nil => rfl
  | cons pair rest ih =>
    have first := agree pair (List.mem_cons_self ..)
    have others := fun entry mem => agree entry (List.mem_cons_of_mem pair mem)
    unfold pass
    rw [List.foldl_cons, List.foldl_cons, first]
    exact ih _ others

/-! ## The order of names -/

/-- The names increase, so that none occurs twice. -/
def Ordered (scope : Scope) : Prop := scope.names.Pairwise (· < ·)

theorem mem_names_insert {name other : String} {value : Json} {scope : Scope} :
    other ∈ (scope.insert name value).names ↔ other = name ∨ other ∈ scope.names := by
  by_cases same : other = name
  · subst same
    simp [mem_names_iff, get?_insert_self]
  · simp [mem_names_iff, get?_insert_of_ne same, same]

theorem Ordered.nodup {scope : Scope} (ordered : scope.Ordered) : scope.names.Nodup := by
  apply List.Pairwise.imp _ ordered
  intro a b less same
  exact String.lt_irrefl b (same ▸ less)

theorem Ordered.insert {scope : Scope} (ordered : scope.Ordered) (name : String) (value : Json) :
    (scope.insert name value).Ordered := by
  induction scope with
  | nil => exact List.pairwise_singleton ..
  | cons entry rest ih =>
    obtain ⟨key, old⟩ := entry
    obtain ⟨first, others⟩ := List.pairwise_cons.mp ordered
    unfold Scope.insert
    rw [Json.insertMember]
    split
    · rename_i less
      refine List.pairwise_cons.mpr ⟨?_, ordered⟩
      intro other mem
      rcases List.mem_cons.mp mem with rfl | mem
      · exact less
      · exact String.lt_trans less (first other mem)
    · rename_i notLess
      split
      · rename_i same
        subst same
        exact ordered
      · rename_i ne
        have less : key < name := by
          rcases Std.lt_trichotomy key name with less | same | less
          · exact less
          · exact absurd same ne
          · exact absurd less notLess
        refine List.pairwise_cons.mpr ⟨?_, ih others⟩
        intro other mem
        rcases mem_names_insert.mp mem with rfl | mem
        · exact less
        · exact first other mem

theorem Ordered.overlay {ambient : Scope} (ordered : ambient.Ordered) (data : Scope) :
    (data.overlay ambient).Ordered := by
  induction data generalizing ambient with
  | nil => exact ordered
  | cons entry rest ih => exact ih (ordered.insert entry.1 entry.2)

end Stencil.Scope
