import Stencil.Proofs.Lines
import Stencil.Text.Quoted

/-! String literals delimit themselves.

* `escapeChar_cases`: the three forms that a character takes inside a literal.
* `unquote?_quoteChars`: reading a literal gives back its text and leaves what follows it, whatever
  that is.
* `printable_of_mem_quoteChars`: a literal has no control characters.
* `unquote?_append`: what can be read from a text is read in the same way when more follows.
* `quote_delimits_itself`: no content ends a literal early or breaks its line. -/

namespace Stencil.Text
set_option autoImplicit false

/-! ## Hexadecimal codes -/

theorem hexValue?_hexDigit : ∀ n < 16, hexValue? (hexDigit n) = some n := by decide

theorem hexDigit_mod (n : Nat) : hexDigit (n % 16) = hexDigit n := by
  unfold hexDigit
  rw [Nat.mod_mod]

theorem hexNumber?_low (n : Nat) (h : n < 256) :
    hexNumber? ['0', '0', hexDigit (n / 16), hexDigit n] = some n := by
  have zero : hexValue? '0' = some 0 := by decide
  have high : hexValue? (hexDigit (n / 16)) = some (n / 16) := hexValue?_hexDigit _ (by omega)
  have low : hexValue? (hexDigit n) = some (n % 16) := by
    rw [← hexDigit_mod]
    exact hexValue?_hexDigit _ (by omega)
  simp only [hexNumber?, List.foldlM_cons, List.foldlM_nil, zero, high, low, Option.map_some,
    Option.bind_eq_bind, Option.bind_some, Option.pure_def, Option.some.injEq]
  omega

/-! ## Escapes -/

/-- A character is written as a one-letter escape, as the code of a control character, or as it is. -/
theorem escapeChar_cases (c : Char) :
    (∃ letter, escapeChar c = ['\\', letter] ∧ letter ≠ 'u' ∧ letterEscape? letter = some c) ∨
    (c.toNat < 0x20 ∧
      escapeChar c = ['\\', 'u', '0', '0', hexDigit (c.toNat / 16), hexDigit c.toNat]) ∨
    (escapeChar c = [c] ∧ c ≠ '"' ∧ c ≠ '\\' ∧ ¬ c.toNat < 0x20) := by
  unfold escapeChar
  -- the seven characters with an escape letter of their own
  iterate 7
    split
    · rename_i h
      exact .inl ⟨_, rfl, by decide, by rw [eq_of_beq h]; rfl⟩
  split
  · rename_i small
    exact .inr (.inl ⟨small, rfl⟩)
  · rename_i hq hb _ _ _ _ _ large
    exact .inr (.inr ⟨rfl, by simpa using hq, by simpa using hb, large⟩)

theorem unquoteInside?_cons {c : Char} (hq : c ≠ '"') (hb : c ≠ '\\') (large : ¬ c.toNat < 0x20)
    (rest : List Char) :
    unquoteInside? (c :: rest) = (unquoteInside? rest).map fun read => (c :: read.1, read.2) := by
  have plain : (c == '\\' || decide (c.toNat < 0x20)) = false := by simp [hb]; omega
  rw [unquoteInside?, plain]
  · rfl
  all_goals simp_all

theorem unquoteInside?_escapeChar (c : Char) (rest : List Char) :
    unquoteInside? (escapeChar c ++ rest) =
      (unquoteInside? rest).map fun read => (c :: read.1, read.2) := by
  obtain ⟨letter, written, hu, means⟩ | ⟨small, written⟩ | ⟨written, hq, hb, large⟩ :=
    escapeChar_cases c
  · rw [written]
    simp [unquoteInside?, hu, means]
  · have code := hexNumber?_low c.toNat (by omega)
    have high : isHighSurrogate c.toNat = false := by simp [isHighSurrogate]; omega
    have low : isLowSurrogate c.toNat = false := by simp [isLowSurrogate]; omega
    rw [written]
    simp [unquoteInside?, code, high, low]
  · rw [written, List.singleton_append, unquoteInside?_cons hq hb large]

theorem unquoteInside?_flatMap (text rest : List Char) :
    unquoteInside? (text.flatMap escapeChar ++ '"' :: rest) = some (text, rest) := by
  induction text with
  | nil => simp [unquoteInside?]
  | cons c text ih =>
    rw [List.flatMap_cons, List.append_assoc, unquoteInside?_escapeChar, ih]
    rfl

/-- Reading a literal gives back its text and leaves what follows. -/
theorem unquote?_quoteChars (text rest : List Char) :
    unquote? (quoteChars text ++ rest) = some (text, rest) := by
  have h := unquoteInside?_flatMap text rest
  simpa [quoteChars, unquote?] using h

/-- Equal texts that start with a literal start with the same literal. -/
theorem quoteChars_append_inj {text other rest more : List Char}
    (h : quoteChars text ++ rest = quoteChars other ++ more) : text = other ∧ rest = more := by
  have left := unquote?_quoteChars text rest
  rw [h, unquote?_quoteChars] at left
  simpa [eq_comm] using left

/-! ## Characters -/

theorem printable_hexDigit (n : Nat) : 0x20 ≤ (hexDigit n).toNat := by
  have digits : ∀ m < 16, 0x20 ≤ (hexDigit m).toNat := by decide
  rw [← hexDigit_mod]
  exact digits _ (Nat.mod_lt n (by decide))

theorem printable_of_letterEscape? {letter c : Char} (means : letterEscape? letter = some c) :
    0x20 ≤ letter.toNat := by
  unfold letterEscape? at means
  iterate 8
    split at means
    · rename_i h
      rw [eq_of_beq h]
      decide
  cases means

theorem printable_of_mem_escapeChar {c d : Char} (mem : d ∈ escapeChar c) : 0x20 ≤ d.toNat := by
  obtain ⟨letter, written, -, means⟩ | ⟨-, written⟩ | ⟨written, -, -, large⟩ := escapeChar_cases c
  · have letters := printable_of_letterEscape? means
    simp only [written, List.mem_cons, List.not_mem_nil, or_false] at mem
    obtain rfl | rfl := mem
    · decide
    · exact letters
  · simp only [written, List.mem_cons, List.not_mem_nil, or_false] at mem
    obtain rfl | rfl | rfl | rfl | rfl | rfl := mem
    iterate 4 · decide
    · exact printable_hexDigit _
    · exact printable_hexDigit _
  · simp only [written, List.mem_singleton] at mem
    rw [mem]
    omega

theorem printable_of_mem_quoteChars {text : List Char} {c : Char} (mem : c ∈ quoteChars text) :
    0x20 ≤ c.toNat := by
  simp only [quoteChars, List.mem_cons, List.mem_append, List.mem_flatMap, List.not_mem_nil,
    or_false] at mem
  obtain rfl | ⟨d, -, mem⟩ | rfl := mem
  · decide
  · exact printable_of_mem_escapeChar mem
  · decide

/-! ## Where literals end -/

theorem unquoteInside?_append {front text after : List Char}
    (h : unquoteInside? front = some (text, after)) (back : List Char) :
    unquoteInside? (front ++ back) = some (text, after ++ back) := by
  -- The cases that refuse are void; in the others the reader goes on behind one character or escape.
  fun_induction unquoteInside? front generalizing text after with
  | case2 rest =>
    cases h
    rfl
  | case5 a b c d n code high e f g h' rest low code' isLow ih =>
    obtain ⟨read, inner, same⟩ := Option.map_eq_some_iff.mp h
    cases same
    simp [unquoteInside?, code, high, code', isLow, ih inner]
  | case9 a b c d rest n code high low ih =>
    obtain ⟨read, inner, same⟩ := Option.map_eq_some_iff.mp h
    cases same
    simp [unquoteInside?, code, high, low, ih inner]
  | case11 c rest code e means ih =>
    obtain ⟨read, inner, same⟩ := Option.map_eq_some_iff.mp h
    cases same
    have letter : c ≠ 'u' := by
      rintro rfl
      cases means
    simp [unquoteInside?, letter, means, ih inner]
  | case13 c rest hq hu hb plain ih =>
    obtain ⟨read, inner, same⟩ := Option.map_eq_some_iff.mp h
    cases same
    simp only [Bool.or_eq_true, beq_iff_eq, decide_eq_true_eq, not_or] at plain
    rw [List.cons_append, unquoteInside?_cons hq plain.1 plain.2, ih inner]
    rfl
  | _ => cases h

theorem unquote?_append {front text after : List Char} (h : unquote? front = some (text, after))
    (back : List Char) : unquote? (front ++ back) = some (text, after ++ back) := by
  unfold unquote? at h
  split at h
  · exact unquoteInside?_append h back
  · cases h

theorem toList_quote (text : String) : (quote text).toList = quoteChars text.toList :=
  String.toList_ofList

theorem printable_quote (text : String) : ∀ c ∈ (quote text).toList, 0x20 ≤ c.toNat := by
  rw [toList_quote]
  exact fun c mem => printable_of_mem_quoteChars mem

theorem unquote?_quote (text : String) (rest : List Char) :
    unquote? ((quote text).toList ++ rest) = some (text.toList, rest) := by
  rw [toList_quote]
  exact unquote?_quoteChars text.toList rest

theorem quote_prefix_iff {text other : String} :
    (quote other).toList <+: (quote text).toList ↔ other = text := by
  constructor
  · rintro ⟨more, same⟩
    have read := unquote?_quote other more
    rw [same, ← List.append_nil (quote text).toList, unquote?_quote] at read
    have texts := congrArg Prod.fst (Option.some.inj read)
    exact (String.toList_inj.mp texts).symm
  · rintro rfl
    exact List.prefix_refl _

/-- No proper part of a literal, taken from its front, begins with a literal. -/
theorem isSome_unquote?_iff {text : String} {front : List Char}
    (h : front <+: (quote text).toList) : (unquote? front).isSome ↔ front = (quote text).toList := by
  constructor
  · intro complete
    -- The reader would leave the rest of the literal behind, but it leaves nothing behind.
    obtain ⟨back, whole⟩ := h
    obtain ⟨⟨read, after⟩, found⟩ := Option.isSome_iff_exists.mp complete
    have longer := unquote?_append found back
    rw [whole, ← List.append_nil (quote text).toList, unquote?_quote] at longer
    have left : [] = after ++ back := congrArg Prod.snd (Option.some.inj longer)
    rw [← whole, (List.append_eq_nil_iff.mp left.symm).2, List.append_nil]
  · rintro rfl
    have read := unquote?_quote text []
    rw [List.append_nil] at read
    rw [read]
    rfl

theorem lines_quote (text : String) : lines (quote text).toList = [(quote text).toList] := by
  have filled : (quote text).toList ≠ [] := by
    rw [toList_quote]
    exact List.cons_ne_nil _ _
  have alone : lines (joinLines [quote text]).toList = [quote text].map String.toList :=
    lines_joinLines (List.forall_mem_singleton.mpr (printable_quote text))
      (List.forall_mem_singleton.mpr filled)
  simpa [joinLines] using alone

/-- Reading the literal of a text gives back the text and leaves what follows, and the literal has no
control characters. So literals of different texts differ, none is the beginning of another, none is
complete before its end, and none goes over a line. -/
theorem quote_delimits_itself (text rest : String) :
    unquote? ((quote text).toList ++ rest.toList) = some (text.toList, rest.toList) ∧
      (∀ c ∈ (quote text).toList, 0x20 ≤ c.toNat) ∧
      (∀ other, quote other = quote text ↔ other = text) ∧
      (∀ other, (quote other).toList <+: (quote text).toList ↔ other = text) ∧
      (∀ front, front <+: (quote text).toList →
        ((unquote? front).isSome ↔ front = (quote text).toList)) ∧
      lines (quote text).toList = [(quote text).toList] := by
  refine ⟨unquote?_quote text rest.toList, printable_quote text, fun other => ⟨fun same => ?_, ?_⟩,
    fun other => quote_prefix_iff, fun front => isSome_unquote?_iff, lines_quote text⟩
  · exact quote_prefix_iff.mp (same ▸ List.prefix_refl _)
  · exact congrArg quote

/-- A text of backslashes, a quote, a line feed, another control character and what looks like an
escape, in front of a quote. -/
theorem quote_delimits_text_of_escapes :
    let text := "\\\"\n\x01\\u0022"
    let literal := "\"\\\\\\\"\\n\\u0001\\\\u0022\""
    quote text = literal ∧ unquote? (literal.toList ++ ['"']) = some (text.toList, ['"']) ∧
      ('1' ∈ literal.toList ∧ 0x20 ≤ '1'.toNat) ∧
      literal.toList.take 6 <+: literal.toList ∧
      (unquote? (literal.toList.take 6)).isSome = false := by
  intro text literal
  have written : quote text = literal := by decide
  obtain ⟨read, printable, -, -, early, -⟩ := quote_delimits_itself text "\""
  rw [written] at read printable early
  have front : literal.toList.take 6 <+: literal.toList := List.take_prefix 6 _
  have short : literal.toList.take 6 ≠ literal.toList := by decide
  refine ⟨written, read, ⟨by decide, printable _ (by decide)⟩, front, ?_⟩
  rw [Bool.eq_false_iff, ne_eq, early _ front]
  exact short

end Stencil.Text
