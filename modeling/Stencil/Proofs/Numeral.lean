import Stencil.Binary64.Text

/-! The form of number literals.

* `IsNumeral`: an optional minus sign, digits, and an optional point with digits after it.
* `IsDecimal`: the same without a sign, where a whole part of more than one digit does not start with
  a zero.
* `isSigned_int`, `isSigned_plain`: whole numbers and finite floating-point numbers are written as
  decimals, behind a minus sign if they are negative. -/

namespace Stencil
set_option autoImplicit false

def numeralChars (negative : Bool) (whole fraction : List Char) : List Char :=
  (if negative then ['-'] else []) ++ whole ++ (if fraction = [] then [] else '.' :: fraction)

/-- An optional minus sign, digits, and an optional point with digits after it. -/
def IsNumeral (text : String) : Prop :=
  ∃ negative whole fraction, text.toList = numeralChars negative whole fraction ∧
    whole ≠ [] ∧ (∀ c ∈ whole, c.isDigit) ∧ ∀ c ∈ fraction, c.isDigit

/-- Digits of which the first is zero only if it is the only one. -/
structure IsWhole (digits : List Char) : Prop where
  filled : digits ≠ []
  all : ∀ c ∈ digits, c.isDigit
  leading : digits.head? = some '0' → digits = ['0']

/-- A number without a sign: a whole part, and an optional point with digits after it. -/
def IsDecimal (text : String) : Prop :=
  ∃ whole fraction, text.toList = numeralChars false whole fraction ∧ IsWhole whole ∧
    ∀ c ∈ fraction, c.isDigit

/-- A decimal, behind a minus sign if it is negative. -/
def IsSigned (negative : Bool) (text : String) : Prop :=
  ∃ decimal, IsDecimal decimal ∧ text = if negative then "-" ++ decimal else decimal

theorem isNumeral_of_isSigned {negative : Bool} {text : String} (h : IsSigned negative text) :
    IsNumeral text := by
  obtain ⟨decimal, ⟨whole, fraction, written, hw, hf⟩, rfl⟩ := h
  refine ⟨negative, whole, fraction, ?_, hw.filled, hw.all, hf⟩
  cases negative <;> simp [written, numeralChars]

/-! ## Digits -/

theorem digit_of_mem {n : Nat} {c : Char} (h : c ∈ Nat.toDigits 10 n) : c.isDigit :=
  Nat.isDigit_of_mem_toDigits (by decide) (by decide) h

theorem head?_toDigits {n : Nat} (h : n ≠ 0) : (Nat.toDigits 10 n).head? ≠ some '0' := by
  induction n using Nat.strongRecOn with
  | ind n ih =>
    by_cases small : n < 10
    · rw [Nat.toDigits_of_lt_base small, List.head?_cons, ne_eq, Option.some.injEq,
        Nat.digitChar_eq_zero]
      exact h
    · have more := ih (n / 10) (by omega) (by omega)
      obtain ⟨c, cs, digits⟩ := List.exists_cons_of_ne_nil (Nat.toDigits_ne_nil (b := 10) (n := n / 10))
      rw [digits] at more
      rw [Nat.toDigits_of_base_le (by decide) (by omega), digits]
      exact more

theorem isWhole_toDigits (n : Nat) : IsWhole (Nat.toDigits 10 n) := by
  refine ⟨Nat.toDigits_ne_nil, fun _ => digit_of_mem, fun zero => ?_⟩
  by_cases h : n = 0
  · rw [h, Nat.toDigits_zero]
  · exact absurd zero (head?_toDigits h)

theorem isDecimal_toDigits (n : Nat) : IsDecimal (String.ofList (Nat.toDigits 10 n)) :=
  ⟨Nat.toDigits 10 n, [], by simp [numeralChars], isWhole_toDigits n, by simp⟩

theorem toList_int (n : Int) :
    (toString n).toList = (if n < 0 then ['-'] else []) ++ Nat.toDigits 10 n.natAbs := by
  cases n with
  | ofNat m =>
    rw [show toString (Int.ofNat m) = m.repr from rfl, Nat.repr_eq_ofList_toDigits]
    simp
  | negSucc m =>
    rw [show toString (Int.negSucc m) = "-" ++ (m + 1).repr from rfl, Nat.repr_eq_ofList_toDigits]
    simp [Int.negSucc_lt_zero]

theorem isSigned_int (n : Int) : IsSigned (decide (n < 0)) (toString n) := by
  refine ⟨_, isDecimal_toDigits n.natAbs, String.toList_inj.mp ?_⟩
  rw [toList_int]
  by_cases negative : n < 0 <;> simp [negative]

theorem isNumeral_int (n : Int) : IsNumeral (toString n) := isNumeral_of_isSigned (isSigned_int n)

/-! ## Digits with a point -/

/-- Digits with a point at any place are a decimal. A zero is written without further zeros. -/
theorem isDecimal_positionalText {digits : List Char} {exponent : Int} (whole : IsWhole digits)
    (zero : digits = ['0'] → exponent ≤ 0) : IsDecimal (positionalText digits exponent "") := by
  have zeros : ∀ (n : Nat), ∀ c ∈ List.replicate n '0', c.isDigit := by
    intro n c h
    rw [List.eq_of_mem_replicate h]
    decide
  unfold positionalText
  by_cases integral : 0 ≤ exponent
  · rw [if_pos integral]
    refine ⟨digits ++ List.replicate exponent.toNat '0', [], by simp [numeralChars], ⟨?_, ?_, ?_⟩,
      by simp⟩
    · simp [whole.filled]
    · intro c h
      rcases List.mem_append.mp h with h | h
      · exact whole.all c h
      · exact zeros _ c h
    · intro leading
      rw [List.head?_append, List.head?_eq_some_head whole.filled, Option.some_or,
        ← List.head?_eq_some_head] at leading
      have alone := whole.leading leading
      have none : exponent.toNat = 0 := by
        have := zero alone
        omega
      rw [alone, none]
      rfl
  rw [if_neg integral]
  by_cases inside : (-exponent).toNat < digits.length
  · simp only [if_pos inside]
    refine ⟨digits.take (digits.length - (-exponent).toNat),
      digits.drop (digits.length - (-exponent).toNat), ?_, ⟨?_, ?_, ?_⟩, ?_⟩
    · have some : digits.drop (digits.length - (-exponent).toNat) ≠ [] := by
        intro h
        have := List.drop_eq_nil_iff.mp h
        omega
      simp [numeralChars, some]
    · intro h
      rcases List.take_eq_nil_iff.mp h with h | h
      · omega
      · exact whole.filled h
    · exact fun c h => whole.all c (List.mem_of_mem_take h)
    · intro leading
      rw [List.head?_take, if_neg (by omega)] at leading
      have alone := congrArg List.length (whole.leading leading)
      rw [List.length_singleton] at alone
      omega
    · exact fun c h => whole.all c (List.mem_of_mem_drop h)
  · simp only [if_neg inside]
    refine ⟨['0'], List.replicate ((-exponent).toNat - digits.length) '0' ++ digits, ?_,
      ⟨by simp, by simp, fun _ => rfl⟩, ?_⟩
    · simp [numeralChars, whole.filled]
    · intro c h
      rcases List.mem_append.mp h with h | h
      · exact zeros _ c h
      · exact whole.all c h

/-! ## The digits of a floating-point number -/

namespace Binary64

variable {x : Binary64} {d : Decimal} {tie : Tie}

theorem isNaN_of_isFinite (finite : x.isFinite) : x.isNaN = false := by
  simp only [isFinite, isNaN, decide_eq_true_eq, decide_eq_false_iff_not] at *
  omega

theorem significand_pos (h : x.isZero = false) : 0 < x.significand := by
  have filled : x.magnitude ≠ 0 := by simpa [isZero] using h
  unfold significand
  split
  · rename_i small
    have below : x.magnitude / pow2 52 = 0 := by simpa using small
    have whole := Nat.div_add_mod x.magnitude (pow2 52)
    rw [below] at whole
    dsimp only
    omega
  · have : 0 < pow2 52 := by decide
    dsimp only
    omega

/-- Zero does not read back as any other number. -/
theorem digits_ne_zero_of_readsBack (h : 0 < x.significand) (back : x.readsBack d = true) :
    d.digits ≠ 0 := by
  intro zero
  have powers : ∀ n, 0 < pow2 n ∧ 0 < pow10 n := fun n =>
    ⟨Nat.pow_pos (by decide), Nat.pow_pos (by decide)⟩
  have below : ∀ (m : Nat) (q : Int), 0 < m → d.compareBinary m q = .lt := by
    intro m q positive
    unfold Decimal.compareBinary
    rw [zero, Nat.zero_mul, Nat.zero_mul, Nat.compare_eq_lt]
    exact Nat.mul_pos (Nat.mul_pos positive (powers _).1) (powers _).2
  have low : 0 < if x.narrowBelow then 4 * x.significand - 1 else 4 * x.significand - 2 := by
    split <;> omega
  simp [readsBack, below _ _ low] at back

theorem readsBack_of_onGrid? {scale : Int} (h : x.onGrid? tie scale = some d) :
    x.readsBack d = true := by
  unfold onGrid? scaled at h
  dsimp only at h
  split at h
  · cases h
  · cases h
    assumption
  · cases h
    assumption
  · rename_i low high
    -- Both neighbours read back, so it does not matter which of them is taken.
    split at h
    · cases h
      exact low
    · split at h
      · cases h
        exact high
      · split at h
        · cases h
          exact high
        · cases h
          split
          · exact low
          · exact high

theorem readsBack_of_firstGrid? {fuel : Nat} {scale : Int}
    (h : x.firstGrid? tie fuel scale = some d) : x.readsBack d = true := by
  induction fuel generalizing scale with
  | zero => cases h
  | succ fuel ih =>
    rw [firstGrid?] at h
    split at h
    · rename_i found
      cases h
      exact readsBack_of_onGrid? found
    · exact ih h

theorem stripZeros_digits {fuel : Nat} (h : d.digits ≠ 0) : (d.stripZeros fuel).digits ≠ 0 := by
  induction fuel generalizing d with
  | zero => exact h
  | succ fuel ih =>
    rw [Decimal.stripZeros]
    split
    · rename_i zeros
      simp only [Bool.and_eq_true, bne_iff_ne, ne_eq, beq_iff_eq] at zeros
      refine ih ?_
      show d.digits / 10 ≠ 0
      omega
    · exact h

/-- Only zero is written with the digit zero alone. -/
theorem shortest_of_digits_eq_zero (h : (x.shortest tie).digits = 0) :
    x.shortest tie = ⟨0, 0⟩ := by
  unfold shortest at h ⊢
  split
  · rfl
  · rename_i other
    rw [if_neg other] at h
    have positive : 0 < x.significand := significand_pos (by simpa using other)
    refine absurd h (stripZeros_digits ?_)
    cases found : x.firstGrid? tie 18 (x.leadingScale 8 x.scaleEstimate - 1) with
    | some d => exact digits_ne_zero_of_readsBack positive (readsBack_of_firstGrid? found)
    | none =>
      have power : ∀ b n, 0 < b → 0 < Nat.pow b n := fun b n hb => Nat.pow_pos hb
      have exact_ : 0 < x.significand * pow2 x.exponent.toNat * Nat.pow 5 (-x.exponent).toNat :=
        Nat.mul_pos (Nat.mul_pos positive (power 2 _ (by decide))) (power 5 _ (by decide))
      exact Nat.ne_of_gt exact_

end Binary64

theorem isSigned_plain {x : Binary64} (finite : x.isFinite) : IsSigned x.isNegative x.plain := by
  have number := Binary64.isNaN_of_isFinite finite
  have zero : Nat.toDigits 10 (x.shortest .awayFromZero).digits = ['0'] →
      (x.shortest .awayFromZero).exponent ≤ 0 := by
    intro alone
    have value := congrArg (Nat.ofDigitChars 10 · 0) alone
    simp only [Nat.ofDigitChars_ten_toDigits] at value
    exact Int.le_of_eq (by rw [Binary64.shortest_of_digits_eq_zero value])
  refine ⟨_, isDecimal_positionalText (isWhole_toDigits _) zero, ?_⟩
  simp [Binary64.plain, Binary64.format, Binary64.plainStyle, number, finite]

theorem isNumeral_plain {x : Binary64} (finite : x.isFinite) : IsNumeral x.plain :=
  isNumeral_of_isSigned (isSigned_plain finite)

/-! ## Characters -/

def isNumeralChar (c : Char) : Bool := c.isDigit || c == '-' || c == '.'

theorem isNumeralChar_of_mem {text : String} (h : IsNumeral text) :
    ∀ c ∈ text.toList, isNumeralChar c := by
  obtain ⟨negative, whole, fraction, written, -, hw, hf⟩ := h
  intro c hc
  rw [written, numeralChars] at hc
  rcases List.mem_append.mp hc with hc | hc
  · rcases List.mem_append.mp hc with hc | hc
    · cases negative
      · simp at hc
      · simp at hc
        simp [isNumeralChar, hc]
    · simp [isNumeralChar, hw c hc]
  · by_cases none : fraction = []
    · simp [none] at hc
    · rw [if_neg none] at hc
      rcases List.mem_cons.mp hc with hc | hc
      · simp [isNumeralChar, hc]
      · simp [isNumeralChar, hf c hc]

theorem toList_ne_nil_of_isNumeral {text : String} (h : IsNumeral text) : text.toList ≠ [] := by
  obtain ⟨negative, whole, fraction, written, nonempty, -, -⟩ := h
  rw [written, numeralChars]
  simp [nonempty]

end Stencil
