import Mathlib.Data.List.Chain
import Stencil.Text.Lines

/-! Texts in which no line is empty.

* `Compact`: no line feed at either end, no two of them in a row, and no carriage return. Compact texts
  stay compact when they are put together, in one line or one below the other.
* `lines_of_compact`: the lines of a compact text are what stands between its line feeds. None of
  them is empty.
* `lines_joinLines`: texts of one line each are the lines of what they make. -/

namespace Stencil.Text
set_option autoImplicit false

/-! ## Line feeds -/

theorem splitLineFeeds_eq_splitOn (cs : List Char) : splitLineFeeds cs = cs.splitOn '\n' := by
  induction cs with
  | nil => rfl
  | cons c rest ih =>
    rw [splitLineFeeds, List.splitOn_cons_eq_if_modifyHead, ih]
    split
    · rfl
    · obtain ⟨piece, pieces, split⟩ := List.exists_cons_of_ne_nil (List.splitOn_ne_nil '\n' rest)
      rw [split]
      rfl

/-- A piece is made of characters of the text other than line feeds. -/
theorem mem_of_mem_splitLineFeeds {cs piece : List Char} {c : Char}
    (among : piece ∈ splitLineFeeds cs) (mem : c ∈ piece) : c ∈ cs ∧ c ≠ '\n' := by
  induction cs generalizing piece with
  | nil => simp_all [splitLineFeeds]
  | cons first rest ih =>
    rw [splitLineFeeds] at among
    split at among
    · rcases List.mem_cons.mp among with rfl | among
      · cases mem
      · exact (ih among mem).imp_left (List.mem_cons_of_mem first)
    · rename_i plain
      split at among
      · simp_all
      · rename_i head pieces split
        rcases List.mem_cons.mp among with rfl | among
        · rcases List.mem_cons.mp mem with rfl | mem
          · exact ⟨List.mem_cons_self .., by simpa using plain⟩
          · have inHead : head ∈ splitLineFeeds rest := by simp [split]
            exact (ih inHead mem).imp_left (List.mem_cons_of_mem first)
        · have inTail : piece ∈ splitLineFeeds rest := by simp [split, among]
          exact (ih inTail mem).imp_left (List.mem_cons_of_mem first)

theorem joinLines_ne_nil {part : String} (filled : part.toList ≠ []) (parts : List String) :
    (joinLines (part :: parts)).toList ≠ [] := by
  cases parts <;> simp_all [joinLines]

/-! ## Compact texts -/

/-- No line feed at either end, no two of them in a row, and no carriage return. -/
structure Compact (cs : List Char) : Prop where
  returns : '\r' ∉ cs
  starts : ∀ c ∈ cs.head?, c ≠ '\n'
  ends : ∀ c ∈ cs.getLast?, c ≠ '\n'
  apart : cs.IsChain fun c d => c ≠ '\n' ∨ d ≠ '\n'

namespace Compact

variable {xs ys : List Char}

theorem nil : Compact [] := ⟨by simp, by simp, by simp, .nil⟩

theorem append (hx : Compact xs) (hy : Compact ys) : Compact (xs ++ ys) where
  returns h := (List.mem_append.mp h).elim hx.returns hy.returns
  starts c hc := by
    rw [List.head?_append] at hc
    rcases Option.or_eq_some_iff.mp hc with hc | ⟨-, hc⟩
    · exact hx.starts c hc
    · exact hy.starts c hc
  ends c hc := by
    rw [List.getLast?_append] at hc
    rcases Option.or_eq_some_iff.mp hc with hc | ⟨-, hc⟩
    · exact hy.ends c hc
    · exact hx.ends c hc
  apart := hx.apart.append hy.apart fun c hc _ _ => .inl (hx.ends c hc)

/-- Two texts one below the other. Neither may be empty, or a line would be. -/
theorem below (hx : Compact xs) (hy : Compact ys) (nx : xs ≠ []) (ny : ys ≠ []) :
    Compact (xs ++ '\n' :: ys) where
  returns := by
    have other : '\r' ≠ '\n' := by decide
    simp [hx.returns, hy.returns, other]
  starts c hc := by
    rw [List.head?_append_of_ne_nil _ nx] at hc
    exact hx.starts c hc
  ends c hc := by
    rw [List.getLast?_append_of_ne_nil _ (List.cons_ne_nil _ _), List.getLast?_cons_of_ne_nil ny] at hc
    exact hy.ends c hc
  apart := by
    have lower : ('\n' :: ys).IsChain fun c d => c ≠ '\n' ∨ d ≠ '\n' :=
      hy.apart.cons fun c hc => .inr (hy.starts c hc)
    exact hx.apart.append lower fun c hc _ _ => .inl (hx.ends c hc)

/-- A text without control characters is a single line. -/
theorem of_printable (h : ∀ c ∈ xs, 0x20 ≤ c.toNat) : Compact xs := by
  have plain : ∀ c ∈ xs, c ≠ '\n' := by
    rintro c hc rfl
    exact absurd (h _ hc) (by decide)
  refine ⟨fun hr => absurd (h _ hr) (by decide), ?_, ?_, ?_⟩
  · exact fun c hc => plain c (List.mem_of_mem_head? hc)
  · exact fun c hc => plain c (List.mem_of_mem_getLast? hc)
  · exact (List.pairwise_of_forall_mem_list fun c hc _ _ => .inl (plain c hc)).isChain

theorem joinLines {parts : List String} (each : ∀ part ∈ parts, Compact part.toList)
    (filled : ∀ part ∈ parts, part.toList ≠ []) : Compact (Text.joinLines parts).toList := by
  induction parts with
  | nil => exact nil
  | cons part parts ih =>
    have here := each part (List.mem_cons_self ..)
    cases parts with
    | nil => simpa [Text.joinLines] using here
    | cons next parts =>
      have below := ih (fun other mem => each other (List.mem_cons_of_mem part mem))
        (fun other mem => filled other (List.mem_cons_of_mem part mem))
      have more := joinLines_ne_nil (filled next (by simp)) parts
      have text : (Text.joinLines (part :: next :: parts)).toList =
          part.toList ++ '\n' :: (Text.joinLines (next :: parts)).toList := by
        simp [Text.joinLines, String.intercalate_cons_cons]
      rw [text]
      exact here.below below (filled part (List.mem_cons_self ..)) more

end Compact

/-! ## Their lines -/

theorem splitLineFeeds_cons {c : Char} (plain : c ≠ '\n') (rest : List Char) :
    ∃ piece pieces, splitLineFeeds rest = piece :: pieces ∧
      splitLineFeeds (c :: rest) = (c :: piece) :: pieces := by
  have filled : splitLineFeeds rest ≠ [] := by
    rw [splitLineFeeds_eq_splitOn]
    exact List.splitOn_ne_nil '\n' rest
  obtain ⟨piece, pieces, split⟩ := List.exists_cons_of_ne_nil filled
  exact ⟨piece, pieces, split, by simp [splitLineFeeds, plain, split]⟩

/-- Behind the first piece, a piece is empty only between two line feeds in a row or after a final
one. -/
theorem nil_not_mem_tail {cs : List Char} (ends : ∀ c ∈ cs.getLast?, c ≠ '\n')
    (apart : cs.IsChain fun c d => c ≠ '\n' ∨ d ≠ '\n') : [] ∉ (splitLineFeeds cs).tail := by
  induction cs with
  | nil => simp [splitLineFeeds]
  | cons c rest ih =>
    have later : [] ∉ (splitLineFeeds rest).tail := by
      refine ih (fun d hd => ends d ?_) apart.tail
      rw [List.getLast?_cons_of_ne_nil (List.ne_nil_of_mem (List.mem_of_mem_getLast? hd))]
      exact hd
    by_cases feed : c = '\n'
    · subst feed
      have pieces : splitLineFeeds ('\n' :: rest) = [] :: splitLineFeeds rest := rfl
      rw [pieces, List.tail_cons]
      cases rest with
      | nil => exact absurd rfl (ends '\n' rfl)
      | cons d more =>
        have plain : d ≠ '\n' := (List.isChain_cons_cons.mp apart).1.resolve_left (by simp)
        obtain ⟨piece, pieces, -, split⟩ := splitLineFeeds_cons plain more
        rw [split] at later ⊢
        simpa using later
    · obtain ⟨piece, pieces, split, whole⟩ := splitLineFeeds_cons feed rest
      rw [split] at later
      rw [whole]
      exact later

theorem nil_not_mem_of_compact {cs : List Char} (h : Compact cs) (filled : cs ≠ []) :
    [] ∉ splitLineFeeds cs := by
  have later := nil_not_mem_tail h.ends h.apart
  cases cs with
  | nil => exact absurd rfl filled
  | cons c rest =>
    obtain ⟨piece, pieces, -, split⟩ := splitLineFeeds_cons (h.starts c rfl) rest
    rw [split] at later ⊢
    simpa using later

theorem dropReturn_of_not_mem {line : List Char} (h : '\r' ∉ line) : dropReturn line = line := by
  unfold dropReturn
  split
  · rename_i last
    exact absurd (List.mem_of_getLast? last) h
  · rfl

theorem linesOfPieces_eq {pieces : List (List Char)} (filled : [] ∉ pieces)
    (returns : ∀ piece ∈ pieces, '\r' ∉ piece) : linesOfPieces pieces = pieces := by
  induction pieces with
  | nil => rfl
  | cons piece pieces ih =>
    have some : piece ≠ [] := fun none => filled (none ▸ List.mem_cons_self ..)
    cases pieces with
    | nil => simp [linesOfPieces, some]
    | cons next pieces =>
      have others := ih (fun none => filled (List.mem_cons_of_mem piece none))
        (fun other mem => returns other (List.mem_cons_of_mem piece mem))
      rw [linesOfPieces, others, dropReturn_of_not_mem (returns piece (List.mem_cons_self ..))]
      simp

/-- The lines of a text in which none is empty: what stands between its line feeds. An empty text has
no lines. -/
def compactLines (cs : List Char) : List (List Char) := if cs = [] then [] else cs.splitOn '\n'

theorem lines_of_compact {cs : List Char} (h : Compact cs) : lines cs = compactLines cs := by
  unfold lines compactLines
  by_cases empty : cs = []
  · subst empty
    rfl
  · rw [if_neg empty, ← splitLineFeeds_eq_splitOn]
    refine linesOfPieces_eq (nil_not_mem_of_compact h empty) fun piece among mem => ?_
    exact h.returns (mem_of_mem_splitLineFeeds among mem).1

theorem nil_not_mem_compactLines {cs : List Char} (h : Compact cs) : [] ∉ compactLines cs := by
  unfold compactLines
  split
  · exact List.not_mem_nil
  · rename_i filled
    rw [← splitLineFeeds_eq_splitOn]
    exact nil_not_mem_of_compact h filled

theorem lineFeed_not_mem_compactLines {cs line : List Char} (among : line ∈ compactLines cs) :
    '\n' ∉ line := by
  unfold compactLines at among
  split at among
  · cases among
  · rw [← splitLineFeeds_eq_splitOn] at among
    exact fun mem => (mem_of_mem_splitLineFeeds among mem).2 rfl

theorem intercalate_compactLines (cs : List Char) : ['\n'].intercalate (compactLines cs) = cs := by
  unfold compactLines
  split
  · rename_i empty
    rw [empty]
    rfl
  · exact List.intercalate_splitOn '\n'

/-- Texts without control characters, one below the other, are the lines of what they make. -/
theorem lines_joinLines {parts : List String}
    (printable : ∀ part ∈ parts, ∀ c ∈ part.toList, 0x20 ≤ c.toNat)
    (filled : ∀ part ∈ parts, part.toList ≠ []) :
    lines (joinLines parts).toList = parts.map String.toList := by
  have compact : Compact (joinLines parts).toList :=
    .joinLines (fun part mem => .of_printable (printable part mem)) filled
  have plain : ∀ line ∈ parts.map String.toList, '\n' ∉ line := by
    intro line mem feed
    obtain ⟨part, among, rfl⟩ := List.mem_map.mp mem
    exact absurd (printable part among '\n' feed) (by decide)
  cases parts with
  | nil => rfl
  | cons part parts =>
    have text : (joinLines (part :: parts)).toList =
        ['\n'].intercalate ((part :: parts).map String.toList) := String.toList_intercalate
    have some := joinLines_ne_nil (filled part (List.mem_cons_self ..)) parts
    rw [lines_of_compact compact, compactLines, if_neg some, text]
    exact List.splitOn_intercalate '\n' plain (by simp)

end Stencil.Text
