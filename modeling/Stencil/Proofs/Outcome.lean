import Stencil.Fault

/-! Computations that may fail.

* `map_eq_ok`, `bind_eq_ok`, `mapM_cons_eq_ok`: how a composed computation succeeds.
* `fault?`: the error of a computation. `fault?_mapM` says that a traversal fails at the first element
  that fails.
* `FailsOnly P x`: every error of the computation satisfies `P`. What is composed of computations that
  fail only so fails only so.
* `AgreesUnless P x y`: the second computation does what the first does, unless the first fails with an
  error that satisfies `P`. This too passes to what is composed of such computations. -/

namespace Stencil.Outcome
set_option autoImplicit false

variable {ε α β γ : Type}

/-! ## Success -/

theorem map_eq_ok {f : α → β} {x : Except ε α} {b : β} :
    x.map f = .ok b ↔ ∃ a, x = .ok a ∧ f a = b := by
  cases x <;> simp [Except.map]

theorem mapError_eq_ok {f : ε → γ} {x : Except ε α} {a : α} :
    x.mapError f = .ok a ↔ x = .ok a := by
  cases x with
  | error e => exact ⟨nofun, nofun⟩
  | ok b =>
    constructor
    · intro h
      cases h
      rfl
    · intro h
      cases h
      rfl

theorem toOption_eq_some {x : Except ε α} {a : α} : x.toOption = some a ↔ x = .ok a := by
  cases x <;> simp [Except.toOption]

theorem bind_eq_ok {x : Except ε α} {f : α → Except ε β} {b : β} :
    x >>= f = .ok b ↔ ∃ a, x = .ok a ∧ f a = .ok b := by
  cases x <;> simp [bind, Except.bind]

theorem mapM_cons_eq_ok {f : α → Except ε β} {x : α} {xs : List α} {zs : List β} :
    (x :: xs).mapM f = .ok zs ↔ ∃ y ys, f x = .ok y ∧ xs.mapM f = .ok ys ∧ zs = y :: ys := by
  rw [List.mapM_cons]
  cases f x <;> cases xs.mapM f <;> simp [bind, Except.bind, pure, Except.pure, eq_comm]

theorem mapM_nil_eq_ok {f : α → Except ε β} {zs : List β} :
    ([] : List α).mapM f = .ok zs ↔ zs = [] := by
  simp [pure, Except.pure, eq_comm]

theorem mapM_append_eq_ok {f : α → Except ε β} {xs ys : List α} {zs : List β} :
    (xs ++ ys).mapM f = .ok zs ↔
      ∃ as bs, xs.mapM f = .ok as ∧ ys.mapM f = .ok bs ∧ zs = as ++ bs := by
  rw [List.mapM_append]
  cases xs.mapM f <;> cases ys.mapM f <;> simp [bind, Except.bind, pure, Except.pure, eq_comm]

theorem length_of_mapM {f : α → Except ε β} {xs : List α} {ys : List β}
    (h : xs.mapM f = .ok ys) : ys.length = xs.length := by
  induction xs generalizing ys with
  | nil => simp [mapM_nil_eq_ok.mp h]
  | cons x xs ih =>
    obtain ⟨y, rest, -, hrest, rfl⟩ := mapM_cons_eq_ok.mp h
    simp [ih hrest]

/-- A traversal that succeeds has succeeded at each element, and gives what each element gave. -/
theorem ok_of_mem_mapM {f : α → Except ε β} {xs : List α} {ys : List β} (h : xs.mapM f = .ok ys)
    {x : α} (mem : x ∈ xs) : ∃ y ∈ ys, f x = .ok y := by
  induction xs generalizing ys with
  | nil => cases mem
  | cons first xs ih =>
    obtain ⟨y, rest, hy, hrest, rfl⟩ := mapM_cons_eq_ok.mp h
    rcases List.mem_cons.mp mem with rfl | mem
    · exact ⟨y, List.mem_cons_self .., hy⟩
    · obtain ⟨other, among, here⟩ := ih hrest mem
      exact ⟨other, List.mem_cons_of_mem y among, here⟩

/-- What a traversal gives comes from one of the elements. -/
theorem exists_of_mem_mapM {f : α → Except ε β} {xs : List α} {ys : List β}
    (h : xs.mapM f = .ok ys) {y : β} (mem : y ∈ ys) : ∃ x ∈ xs, f x = .ok y := by
  induction xs generalizing ys with
  | nil =>
    rw [mapM_nil_eq_ok.mp h] at mem
    cases mem
  | cons first xs ih =>
    obtain ⟨z, rest, hz, hrest, rfl⟩ := mapM_cons_eq_ok.mp h
    rcases List.mem_cons.mp mem with rfl | mem
    · exact ⟨first, List.mem_cons_self .., hz⟩
    · obtain ⟨x, among, here⟩ := ih hrest mem
      exact ⟨x, List.mem_cons_of_mem first among, here⟩

/-- What a traversal gives, seen through `g`, if each element's result is seen as `k` of it. -/
theorem map_of_mapM {f : α → Except ε β} {g : β → γ} {k : α → γ} {xs : List α} {ys : List β}
    (each : ∀ x ∈ xs, ∀ y, f x = .ok y → g y = k x) (h : xs.mapM f = .ok ys) :
    ys.map g = xs.map k := by
  induction xs generalizing ys with
  | nil => simp [mapM_nil_eq_ok.mp h]
  | cons x xs ih =>
    obtain ⟨y, rest, hy, hrest, rfl⟩ := mapM_cons_eq_ok.mp h
    have tail := ih (fun z hz => each z (List.mem_cons_of_mem x hz)) hrest
    rw [List.map_cons, List.map_cons, tail, each x (List.mem_cons_self ..) y hy]

theorem getElem?_of_mapM {f : α → Except ε β} {xs : List α} {ys : List β} (h : xs.mapM f = .ok ys)
    {i : Nat} {x : α} (there : xs[i]? = some x) : ∃ y, ys[i]? = some y ∧ f x = .ok y := by
  have results : ys.map Except.ok = xs.map f :=
    map_of_mapM (fun _ _ _ success => success.symm) h
  have result := congrArg (·[i]?) results
  simp only [List.getElem?_map, there, Option.map_some] at result
  obtain ⟨y, at', same⟩ := Option.map_eq_some_iff.mp result
  exact ⟨y, at', same.symm⟩

/-! ## Failure -/

def fault? : Except ε α → Option ε
  | .ok _ => none
  | .error e => some e

@[simp] theorem fault?_ok (a : α) : fault? (.ok a : Except ε α) = none := rfl

@[simp] theorem fault?_error (e : ε) : fault? (.error e : Except ε α) = some e := rfl

@[simp] theorem fault?_map (f : α → β) (x : Except ε α) : fault? (x.map f) = fault? x := by
  cases x <;> rfl

@[simp] theorem fault?_mapError (f : ε → γ) (x : Except ε α) :
    fault? (x.mapError f) = (fault? x).map f := by
  cases x <;> rfl

theorem fault?_eq_none {x : Except ε α} : fault? x = none ↔ ∃ a, x = .ok a := by
  cases x <;> simp

theorem fault?_eq_some {x : Except ε α} {e : ε} : fault? x = some e ↔ x = .error e := by
  cases x <;> simp

/-- A traversal fails at the first element that fails. -/
theorem fault?_mapM (f : α → Except ε β) (xs : List α) :
    fault? (xs.mapM f) = xs.findSome? fun x => fault? (f x) := by
  induction xs with
  | nil => rfl
  | cons x xs ih =>
    rw [List.mapM_cons, List.findSome?_cons, ← ih]
    cases f x <;> cases xs.mapM f <;> rfl

theorem exists_mapM_eq_ok {f : α → Except ε β} {xs : List α} :
    (∃ ys, xs.mapM f = .ok ys) ↔ ∀ x ∈ xs, ∃ y, f x = .ok y := by
  rw [← fault?_eq_none, fault?_mapM, List.findSome?_eq_none_iff]
  simp only [fault?_eq_none]

theorem fault?_both (f : α → β → γ) (x : Except ε α) (y : Except ε β) :
    fault? (do let a ← x; let b ← y; return f a b) = (fault? x).or (fault? y) := by
  cases x <;> cases y <;> rfl

/-! ## Kinds of failure -/

/-- Every error of the computation satisfies the property. -/
def FailsOnly (P : ε → Prop) (x : Except ε α) : Prop := ∀ e, x = .error e → P e

namespace FailsOnly

variable {P : ε → Prop} {x : Except ε α}

theorem ok (a : α) : FailsOnly P (.ok a : Except ε α) := fun _ h => nomatch h

theorem error {e : ε} (h : P e) : FailsOnly P (.error e : Except ε α) := by
  intro e' same
  cases same
  exact h

theorem map (h : FailsOnly P x) (f : α → β) : FailsOnly P (x.map f) := by
  cases x with
  | ok a => exact ok (f a)
  | error e => exact error (h e rfl)

theorem bind {f : α → Except ε β} (h : FailsOnly P x) (next : ∀ a, FailsOnly P (f a)) :
    FailsOnly P (x >>= f) := by
  cases x with
  | ok a => exact next a
  | error e => exact error (h e rfl)

theorem mapM {f : α → Except ε β} {xs : List α} (each : ∀ x ∈ xs, FailsOnly P (f x)) :
    FailsOnly P (xs.mapM f) := by
  intro e failed
  have first := fault?_eq_some.mpr failed
  rw [fault?_mapM] at first
  obtain ⟨x, mem, here⟩ := List.exists_of_findSome?_eq_some first
  exact each x mem e (fault?_eq_some.mp here)

end FailsOnly

/-! ## Agreement -/

/-- The second computation does what the first does, unless the first fails with an error that
satisfies the property. -/
def AgreesUnless (P : ε → Prop) (x y : Except ε α) : Prop := y = x ∨ ∃ e, x = .error e ∧ P e

namespace AgreesUnless

variable {P : ε → Prop} {x y : Except ε α}

theorem refl (x : Except ε α) : AgreesUnless P x x := .inl rfl

theorem map (h : AgreesUnless P x y) (f : α → β) : AgreesUnless P (x.map f) (y.map f) := by
  rcases h with rfl | ⟨e, rfl, bad⟩
  · exact refl _
  · exact .inr ⟨e, rfl, bad⟩

theorem mapError {Q : γ → Prop} (h : AgreesUnless P x y) (f : ε → γ)
    (kept : ∀ e, P e → Q (f e)) : AgreesUnless Q (x.mapError f) (y.mapError f) := by
  rcases h with rfl | ⟨e, rfl, bad⟩
  · exact refl _
  · exact .inr ⟨f e, rfl, kept e bad⟩

theorem bind {f g : α → Except ε β} (h : AgreesUnless P x y)
    (next : ∀ a, AgreesUnless P (f a) (g a)) : AgreesUnless P (x >>= f) (y >>= g) := by
  rcases h with rfl | ⟨e, rfl, bad⟩
  · cases y with
    | ok a => exact next a
    | error e => exact refl _
  · exact .inr ⟨e, rfl, bad⟩

theorem mapM {f g : α → Except ε β} {xs : List α}
    (each : ∀ x ∈ xs, AgreesUnless P (f x) (g x)) : AgreesUnless P (xs.mapM f) (xs.mapM g) := by
  induction xs with
  | nil => exact refl _
  | cons x xs ih =>
    have others := ih fun x mem => each x (List.mem_cons_of_mem _ mem)
    rw [List.mapM_cons, List.mapM_cons]
    exact (each x (List.mem_cons_self ..)).bind fun _ => others.bind fun _ => refl _

end AgreesUnless

end Stencil.Outcome
