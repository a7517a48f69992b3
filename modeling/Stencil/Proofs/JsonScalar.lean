import Mathlib.Data.List.TakeWhile
import Stencil.Node.Json
import Stencil.Proofs.Numeral
import Stencil.Proofs.Quoted

/-! Scalars in JSON text are read back.

* `Json.Stops`: what cannot continue a number.
* `Json.numeral?_append`: a number is split off the same way if such a text follows it.
* `Json.ReadsBack`: the text of a floating-point number reads as that number. The reader rounds twice,
  so this is not so for every number.
* `Json.read?_toJson`: the text of an attribute reads as its value, and what follows is left. -/

namespace Stencil
set_option autoImplicit false

namespace Json

/-! ## Numbers and what follows them -/

def isNumberChar (c : Char) : Bool :=
  c.isDigit || c == '-' || c == '+' || c == '.' || c == 'e' || c == 'E'

/-- A text that does not continue a number. -/
def Stops (rest : List Char) : Prop := ∀ c ∈ rest.head?, isNumberChar c = false

/-- The result of a reader that leaves more text. -/
def leaving {α : Type} (more : List Char) (result : α × List Char) : α × List Char :=
  (result.1, result.2 ++ more)

def numeralSign : List Char → Bool × List Char
  | '-' :: more => (true, more)
  | rest => (false, rest)

def exponentSign : List Char → Bool × List Char
  | '-' :: more => (true, more)
  | '+' :: more => (false, more)
  | rest => (false, rest)

theorem exponentPart?_cons (c : Char) (rest : List Char) :
    exponentPart? (c :: rest) =
      if c == 'e' || c == 'E' then
        (digits? (exponentSign rest).2).map fun read => (some ((exponentSign rest).1, read.1), read.2)
      else some (none, c :: rest) := by
  cases rest with
  | nil => rfl
  | cons d tail =>
    by_cases minus : d = '-'
    · subst minus
      rfl
    · by_cases plus : d = '+'
      · subst plus
        rfl
      · simp [exponentPart?, exponentSign, minus, plus]

theorem numeral?_eq (cs : List Char) :
    numeral? cs = (wholePart? (numeralSign cs).2).bind fun whole =>
      (fractionPart? whole.2).bind fun fraction =>
        (exponentPart? fraction.2).bind fun exponent =>
          some (⟨(numeralSign cs).1, whole.1, fraction.1, exponent.1⟩, exponent.2) := by
  cases cs with
  | nil => rfl
  | cons c tail =>
    by_cases minus : c = '-'
    · subst minus
      rfl
    · simp [numeral?, numeralSign, minus, bind, pure]

section Append

variable {rest : List Char} (stops : Stops rest)
include stops

theorem Stops.head {c : Char} {tail : List Char} (h : rest = c :: tail) :
    c.isDigit = false ∧ c ≠ '-' ∧ c ≠ '+' ∧ c ≠ '.' ∧ c ≠ 'e' ∧ c ≠ 'E' := by
  have other := stops c (by rw [h]; rfl)
  simpa [isNumberChar, and_assoc] using other

theorem Stops.digits : rest.takeWhile Char.isDigit = [] ∧ rest.dropWhile Char.isDigit = rest := by
  cases h : rest with
  | nil => exact ⟨rfl, rfl⟩
  | cons c tail =>
    have other := (stops.head h).1
    simp [other]

theorem digits?_append (cs : List Char) :
    digits? (cs ++ rest) = (digits? cs).map (leaving rest) := by
  obtain ⟨none, all⟩ := stops.digits
  have taken : (cs ++ rest).takeWhile Char.isDigit = cs.takeWhile Char.isDigit := by
    rw [List.takeWhile_append, none, List.append_nil]
    split
    · rename_i whole
      exact ((List.takeWhile_prefix _).eq_of_length whole).symm
    · rfl
  have left : (cs ++ rest).dropWhile Char.isDigit = cs.dropWhile Char.isDigit ++ rest := by
    rw [List.dropWhile_append, all]
    split
    · rename_i empty
      rw [List.isEmpty_iff.mp empty, List.nil_append]
    · rfl
  unfold digits?
  dsimp only
  rw [taken, left]
  split <;> rfl

theorem wholePart?_append (cs : List Char) :
    wholePart? (cs ++ rest) = (wholePart? cs).map (leaving rest) := by
  unfold wholePart?
  rw [digits?_append stops]
  cases digits? cs with
  | none => rfl
  | some result =>
    obtain ⟨digits, after⟩ := result
    simp only [Option.map_some, leaving]
    split
    · rename_i h
      cases h
      rfl
    · rename_i other
      split
      · rename_i h
        cases h
        exact absurd rfl (other _ _ _)
      · rfl

theorem fractionPart?_append (cs : List Char) :
    fractionPart? (cs ++ rest) = (fractionPart? cs).map (leaving rest) := by
  cases cs with
  | nil =>
    rw [List.nil_append]
    unfold fractionPart?
    split
    · rename_i tail
      exact absurd rfl (stops.head rfl).2.2.2.1
    · rfl
  | cons c tail =>
    by_cases point : c = '.'
    · subst point
      rw [List.cons_append, fractionPart?, fractionPart?, digits?_append stops]
      cases digits? tail <;> rfl
    · simp [fractionPart?, point, leaving]

theorem exponentSign_append (cs : List Char) :
    exponentSign (cs ++ rest) = leaving rest (exponentSign cs) := by
  cases cs with
  | nil =>
    cases h : rest with
    | nil => rfl
    | cons c tail =>
      obtain ⟨-, minus, plus, -⟩ := stops.head h
      simp [exponentSign, leaving, minus, plus]
  | cons c tail =>
    by_cases minus : c = '-'
    · subst minus
      rfl
    · by_cases plus : c = '+'
      · subst plus
        rfl
      · simp [exponentSign, leaving, minus, plus]

theorem exponentPart?_append (cs : List Char) :
    exponentPart? (cs ++ rest) = (exponentPart? cs).map (leaving rest) := by
  cases cs with
  | nil =>
    cases h : rest with
    | nil => rfl
    | cons c tail =>
      obtain ⟨-, -, -, -, small, large⟩ := stops.head h
      simp [exponentPart?, leaving, small, large]
  | cons c tail =>
    rw [List.cons_append, exponentPart?_cons, exponentPart?_cons, exponentSign_append stops]
    split
    · dsimp only [leaving]
      rw [digits?_append stops]
      cases digits? (exponentSign tail).2 <;> rfl
    · rfl

theorem numeral?_append (cs : List Char) :
    numeral? (cs ++ rest) = (numeral? cs).map (leaving rest) := by
  have sign : numeralSign (cs ++ rest) = leaving rest (numeralSign cs) := by
    cases cs with
    | nil =>
      cases h : rest with
      | nil => rfl
      | cons c tail => simp [numeralSign, leaving, (stops.head h).2.1]
    | cons c tail =>
      by_cases minus : c = '-'
      · subst minus
        rfl
      · simp [numeralSign, leaving, minus]
  rw [numeral?_eq, numeral?_eq, sign]
  dsimp only [leaving]
  rw [wholePart?_append stops]
  cases wholePart? (numeralSign cs).2 with
  | none => rfl
  | some whole =>
    dsimp only [Option.map_some, Option.bind_some, leaving]
    rw [fractionPart?_append stops]
    cases fractionPart? whole.2 with
    | none => rfl
    | some fraction =>
      dsimp only [Option.map_some, Option.bind_some, leaving]
      rw [exponentPart?_append stops]
      cases exponentPart? fraction.2 <;> rfl

end Append

/-! ## What a number leaves -/

theorem suffix_of_digits? {cs digits after : List Char} (h : digits? cs = some (digits, after)) :
    after <:+ cs := by
  unfold digits? at h
  dsimp only at h
  split at h
  · cases h
  · cases h
    exact List.dropWhile_suffix _

theorem suffix_of_wholePart? {cs digits after : List Char}
    (h : wholePart? cs = some (digits, after)) : after <:+ cs := by
  unfold wholePart? at h
  split at h
  · cases h
  · exact suffix_of_digits? h

theorem suffix_of_fractionPart? {cs after : List Char} {fraction : Option (List Char)}
    (h : fractionPart? cs = some (fraction, after)) : after <:+ cs := by
  unfold fractionPart? at h
  split at h
  · rename_i tail
    obtain ⟨read, hr, same⟩ := Option.map_eq_some_iff.mp h
    cases same
    exact (suffix_of_digits? hr).trans (List.suffix_cons _ _)
  · cases h
    exact List.suffix_rfl

theorem suffix_of_exponentSign (cs : List Char) : (exponentSign cs).2 <:+ cs := by
  unfold exponentSign
  split
  · exact List.suffix_cons _ _
  · exact List.suffix_cons _ _
  · exact List.suffix_rfl

theorem suffix_of_exponentPart? {cs after : List Char} {exponent : Option (Bool × List Char)}
    (h : exponentPart? cs = some (exponent, after)) : after <:+ cs := by
  cases cs with
  | nil =>
    cases h
    exact List.suffix_rfl
  | cons c tail =>
    rw [exponentPart?_cons] at h
    split at h
    · obtain ⟨read, hr, same⟩ := Option.map_eq_some_iff.mp h
      cases same
      have signed := (suffix_of_digits? hr).trans (suffix_of_exponentSign tail)
      exact signed.trans (List.suffix_cons _ _)
    · cases h
      exact List.suffix_rfl

theorem suffix_of_numeral? {cs after : List Char} {numeral : Numeral}
    (h : numeral? cs = some (numeral, after)) : after <:+ cs := by
  have sign : (numeralSign cs).2 <:+ cs := by
    unfold numeralSign
    split
    · exact List.suffix_cons _ _
    · exact List.suffix_rfl
  rw [numeral?_eq] at h
  obtain ⟨whole, hw, h⟩ := Option.bind_eq_some_iff.mp h
  obtain ⟨fraction, hf, h⟩ := Option.bind_eq_some_iff.mp h
  obtain ⟨exponent, he, h⟩ := Option.bind_eq_some_iff.mp h
  cases h
  have unpointed := (suffix_of_fractionPart? hf).trans (suffix_of_wholePart? hw)
  exact (suffix_of_exponentPart? he).trans (unpointed.trans sign)

/-! ## Reading a number -/

theorem skipBlanks_of_not_blank {c : Char} (h : isBlank c = false) (cs : List Char) :
    skipBlanks (c :: cs) = c :: cs := by
  rw [skipBlanks, List.dropWhile_cons, h]
  rfl

theorem not_blank_of_isNumberChar {c : Char} (h : isNumberChar c) : isBlank c = false := by
  simp only [isBlank, Bool.or_eq_false_iff, beq_eq_false_iff_ne]
  refine ⟨⟨⟨?_, ?_⟩, ?_⟩, ?_⟩
  all_goals
    rintro rfl
    cases h

/-- The reader takes what starts like a number for one. -/
theorem read?_of_isNumberChar {c : Char} (h : isNumberChar c) (tail : List Char) (fuel depth : Nat) :
    read? (fuel + 1) depth (c :: tail) =
      (numeral? (c :: tail)).bind fun read => read.1.value?.bind fun value => some (value, read.2) := by
  rw [read?, skipBlanks_of_not_blank (not_blank_of_isNumberChar h)]
  split
  case h_1 start => cases start
  case h_8 => rfl
  all_goals
    rename_i start
    cases start
    cases h

/-! ## Floating-point numbers -/

theorem isNumberChar_of_isDigit {c : Char} (h : c.isDigit) : isNumberChar c := by
  simp [isNumberChar, h]

theorem isNumberChar_positionalText {digits : List Char} {exponent : Int}
    (all : ∀ c ∈ digits, isNumberChar c) :
    ∀ c ∈ (positionalText digits exponent ".0").toList, isNumberChar c := by
  have zeros : ∀ (n : Nat), ∀ c ∈ List.replicate n '0', isNumberChar c := by
    intro n c mem
    rw [List.eq_of_mem_replicate mem]
    decide
  have point : ".0".toList.all isNumberChar := by decide
  have front : "0.".toList.all isNumberChar := by decide
  intro c mem
  unfold positionalText at mem
  split at mem
  · simp only [String.toList_append, String.toList_ofList, List.mem_append] at mem
    rcases mem with (mem | mem) | mem
    · exact all c mem
    · exact zeros _ c mem
    · exact List.all_eq_true.mp point c mem
  · dsimp only at mem
    split at mem
    · simp only [String.toList_ofList, List.mem_append, List.mem_cons] at mem
      rcases mem with mem | rfl | mem
      · exact all c (List.mem_of_mem_take mem)
      · decide
      · exact all c (List.mem_of_mem_drop mem)
    · simp only [String.toList_append, String.toList_ofList, List.mem_append] at mem
      rcases mem with mem | mem | mem
      · exact List.all_eq_true.mp front c mem
      · exact zeros _ c mem
      · exact all c mem

theorem isNumberChar_exponentText {digits : List Char} {exponent : Int}
    (all : ∀ c ∈ digits, isNumberChar c) :
    ∀ c ∈ (exponentText digits exponent).toList, isNumberChar c := by
  have zero : "0".toList.all isNumberChar := by decide
  have down : "e-".toList.all isNumberChar := by decide
  have up : "e+".toList.all isNumberChar := by decide
  intro c mem
  unfold exponentText at mem
  simp only [String.toList_append, List.mem_append] at mem
  rcases mem with (mem | mem) | mem
  · split at mem
    · exact List.all_eq_true.mp zero c mem
    · exact all c (by simpa using mem)
    · rename_i d more _
      simp only [String.toList_ofList, List.mem_cons] at mem
      rcases mem with rfl | rfl | mem
      · exact all _ (by simp)
      · decide
      · exact all c (by simp [mem])
  · split at mem
    · exact List.all_eq_true.mp down c mem
    · exact List.all_eq_true.mp up c mem
  · rw [show toString exponent.natAbs = exponent.natAbs.repr from rfl, Nat.repr_eq_ofList_toDigits,
      String.toList_ofList] at mem
    exact isNumberChar_of_isDigit (digit_of_mem mem)

theorem isNumberChar_floatText {x : Binary64} (finite : x.isFinite) :
    ∀ c ∈ (floatText x).toList, isNumberChar c := by
  have number := Binary64.isNaN_of_isFinite finite
  have digits : ∀ c ∈ Nat.toDigits 10 (x.shortest .toEven).digits, isNumberChar c :=
    fun c mem => isNumberChar_of_isDigit (digit_of_mem mem)
  have body : ∀ (short : Bool) (exponent leading : Int),
      ∀ c ∈ (if short then positionalText (Nat.toDigits 10 (x.shortest .toEven).digits) exponent ".0"
        else exponentText (Nat.toDigits 10 (x.shortest .toEven).digits) leading).toList,
        isNumberChar c := by
    intro short exponent leading
    cases short
    · exact isNumberChar_exponentText digits
    · exact isNumberChar_positionalText digits
  have sign : "-".toList.all isNumberChar := by decide
  intro c mem
  unfold floatText Binary64.format at mem
  simp only [number, finite, numberStyle, Bool.not_true, Bool.false_eq_true, if_false] at mem
  split at mem
  · rw [String.toList_append, List.mem_append] at mem
    rcases mem with mem | mem
    · exact List.all_eq_true.mp sign c mem
    · exact body _ _ _ c mem
  · exact body _ _ _ c mem

/-- The text of a number reads as that number. -/
def ReadsBack (x : Binary64) : Prop := ofText? (floatText x) = some (.float x)

def isFloat (x : Binary64) : Option Json → Bool
  | some (.float y) => y == x
  | _ => false

theorem isFloat_iff (x : Binary64) (read : Option Json) :
    isFloat x read = true ↔ read = some (.float x) := by
  unfold isFloat
  split <;> simp_all

instance (x : Binary64) : Decidable (ReadsBack x) := decidable_of_iff _ (isFloat_iff x _)

-- 1.2133333333042293: seventeen digits are rounded to a double before they are divided
example : ¬ ReadsBack ⟨4608143186720392041⟩ := by decide +kernel

theorem read?_floatText {x : Binary64} (finite : x.isFinite) (back : ReadsBack x) {rest : List Char}
    (stops : Stops rest) (fuel depth : Nat) :
    read? (fuel + 1) depth ((floatText x).toList ++ rest) = some (.float x, rest) := by
  have chars := isNumberChar_floatText finite
  unfold ReadsBack ofText? at back
  dsimp only at back
  cases text : (floatText x).toList with
  | nil =>
    rw [text] at back
    cases back
  | cons c tail =>
    rw [text] at back chars
    have first := chars c (List.mem_cons_self ..)
    rw [read?_of_isNumberChar first] at back
    obtain ⟨read, hr, back⟩ := Option.bind_eq_some_iff.mp back
    obtain ⟨⟨numeral, after⟩, split, hr⟩ := Option.bind_eq_some_iff.mp hr
    obtain ⟨value, means, same⟩ := Option.bind_eq_some_iff.mp hr
    cases same
    -- nothing is left: no character of the text is blank
    have empty : after = [] := by
      cases left : after with
      | nil => rfl
      | cons d more =>
        have mem : d ∈ c :: tail := (suffix_of_numeral? split).mem (by rw [left]; simp)
        have stays := skipBlanks_of_not_blank (not_blank_of_isNumberChar (chars d mem)) more
        rw [left, stays] at back
        cases back
    subst empty
    cases back
    rw [List.cons_append, read?_of_isNumberChar first, ← List.cons_append, numeral?_append stops, split]
    simp [leaving, means]

/-! ## Whole numbers -/

theorem wholePart?_of_isWhole {digits : List Char} (whole : IsWhole digits) :
    wholePart? digits = some (digits, []) := by
  have taken : digits.takeWhile Char.isDigit = digits := List.takeWhile_eq_self_iff.mpr whole.all
  have left : digits.dropWhile Char.isDigit = [] := List.dropWhile_eq_nil_iff.mpr whole.all
  have all : digits? digits = some (digits, []) := by
    simp [digits?, taken, left, whole.filled]
  unfold wholePart?
  rw [all]
  split
  · rename_i d more _ same
    cases same
    cases whole.leading rfl
  · rfl

theorem numeral?_int (n : Int) :
    numeral? (toString n).toList =
      some (⟨decide (n < 0), Nat.toDigits 10 n.natAbs, none, none⟩, []) := by
  have whole := isWhole_toDigits n.natAbs
  have sign : numeralSign (toString n).toList = (decide (n < 0), Nat.toDigits 10 n.natAbs) := by
    rw [toList_int]
    by_cases negative : n < 0
    · simp [negative, numeralSign]
    · obtain ⟨d, more, digits⟩ := List.exists_cons_of_ne_nil whole.filled
      have digit : d ≠ '-' := by
        rintro rfl
        exact absurd (whole.all '-' (by simp [digits])) (by decide)
      simp [negative, numeralSign, digits, digit]
  rw [numeral?_eq, sign]
  dsimp only
  rw [wholePart?_of_isWhole whole]
  rfl

/-- As long as the digits fit a word, none is dropped. -/
theorem foldl_leadingWord (digits : List Char) (word : Nat)
    (fits : Nat.ofDigitChars 10 digits word ≤ maxWord) :
    word ≤ Nat.ofDigitChars 10 digits word ∧
    digits.foldl (fun (word, dropped) c =>
      if dropped == 0 && 10 * word + digitValue c ≤ maxWord then (10 * word + digitValue c, 0)
      else (word, dropped + 1)) (word, 0) = (Nat.ofDigitChars 10 digits word, 0) := by
  induction digits generalizing word with
  | nil => simp
  | cons c digits ih =>
    rw [Nat.ofDigitChars_cons] at fits ⊢
    obtain ⟨grows, rest⟩ := ih _ fits
    have step : 10 * word + digitValue c ≤ maxWord := Nat.le_trans grows fits
    refine ⟨by omega, ?_⟩
    rw [List.foldl_cons]
    simp only [step, decide_true, Bool.and_true, beq_self_eq_true, if_true]
    exact rest

theorem leadingWord_toDigits {n : Nat} (fits : n ≤ maxWord) :
    leadingWord (Nat.toDigits 10 n) = (n, 0) := by
  have value : Nat.ofDigitChars 10 (Nat.toDigits 10 n) 0 = n := Nat.ofDigitChars_ten_toDigits
  have word := (foldl_leadingWord (Nat.toDigits 10 n) 0 (by omega)).2
  rw [value] at word
  exact word

theorem value?_int (n : Int64) :
    Numeral.value? ⟨decide (n.toInt < 0), Nat.toDigits 10 n.toInt.natAbs, none, none⟩ =
      some (.integer n.toInt) := by
  have low := n.le_toInt
  have high := n.toInt_lt
  have half : pow2 63 = 9223372036854775808 := by decide
  have largest : maxWord = 18446744073709551615 := by decide
  obtain ⟨size, abs⟩ : ∃ size, n.toInt.natAbs = size := ⟨_, rfl⟩
  have word : leadingWord (Nat.toDigits 10 size) = (size, 0) := leadingWord_toDigits (by omega)
  rw [abs]
  unfold Numeral.value?
  dsimp only
  rw [word]
  by_cases negative : n.toInt < 0
  · have bound : size ≤ pow2 63 := by omega
    have filled : size ≠ 0 := by omega
    have value : -(size : Int) = n.toInt := by omega
    simp [negative, bound, filled, value]
  · have value : (size : Int) = n.toInt := by omega
    simp [negative, value]

theorem read?_int (n : Int64) {rest : List Char} (stops : Stops rest) (fuel depth : Nat) :
    read? (fuel + 1) depth ((toString n.toInt).toList ++ rest) = some (.integer n.toInt, rest) := by
  have written := isNumeral_int n.toInt
  have split := numeral?_append stops (toString n.toInt).toList
  rw [numeral?_int] at split
  obtain ⟨c, tail, text⟩ := List.exists_cons_of_ne_nil (toList_ne_nil_of_isNumeral written)
  have first : isNumberChar c := by
    have kind := isNumeralChar_of_mem written c (text ▸ List.mem_cons_self ..)
    simp only [isNumeralChar, Bool.or_eq_true] at kind
    rcases kind with (kind | kind) | kind <;> simp [isNumberChar, kind]
  rw [text, List.cons_append] at split ⊢
  rw [read?_of_isNumberChar first, split]
  simp [leaving, value?_int]

/-! ## Attributes -/

theorem afterWord?_append (word : String) (rest : List Char) :
    afterWord? word (word.toList ++ rest) = some rest := by
  have starts : word.toList.isPrefixOf (word.toList ++ rest) = true :=
    List.isPrefixOf_iff_prefix.mpr (List.prefix_append _ _)
  rw [afterWord?, if_pos starts, ← String.length_toList, List.drop_left]

/-- The text of an attribute reads as its value. -/
theorem read?_toJson {value : Attribute}
    (back : ∀ x, value = .float x → x.isFinite ∧ ReadsBack x) {rest : List Char} (stops : Stops rest)
    (fuel depth : Nat) :
    read? (fuel + 1) depth (value.toJson.text.toList ++ rest) = some (value.toJson, rest) := by
  cases value with
  | null => exact congrArg (Option.map (Json.null, ·)) (afterWord?_append "ull" rest)
  | bool b =>
    cases b
    · exact congrArg (Option.map (Json.bool false, ·)) (afterWord?_append "alse" rest)
    · exact congrArg (Option.map (Json.bool true, ·)) (afterWord?_append "rue" rest)
  | int n => exact read?_int n stops fuel depth
  | float x =>
    obtain ⟨finite, back⟩ := back x rfl
    exact read?_floatText finite back stops fuel depth
  | text s =>
    have chars : (Attribute.text s).toJson.text.toList ++ rest =
        '"' :: (s.toList.flatMap Text.escapeChar ++ '"' :: rest) := by
      simp [Attribute.toJson, text, Text.quote, Text.quoteChars]
    have inside := congrArg
      (Option.map fun read : List Char × List Char => (Json.string (String.ofList read.1), read.2))
      (Text.unquoteInside?_flatMap s.toList rest)
    rw [Option.map_some, String.ofList_toList] at inside
    rw [chars]
    exact inside

end Json

theorem Node.attributeOfJson_toJson (value : Attribute) : attributeOfJson value.toJson = .ok value := by
  cases value with
  | int n =>
    have low := n.le_toInt
    have high := n.toInt_lt
    have fits : fitsSigned 64 n.toInt = true := by
      have half : (pow2 (64 - 1) : Int) = 9223372036854775808 := by decide
      simp only [fitsSigned, half, Bool.and_eq_true, decide_eq_true_eq]
      omega
    simp [Attribute.toJson, attributeOfJson, fits, Int64.ofInt_toInt]
  | _ => rfl

end Stencil
