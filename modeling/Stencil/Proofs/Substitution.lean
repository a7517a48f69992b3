import Stencil.Proofs.Segment

/-! Formats are literal text around their placeholders.

* `Reads format first later`: reading the format from left to right gives literal texts, `first`
  before the first placeholder and one of `later` behind each placeholder.
* `exists_reads`, `Reads.unique`: every format can be read in exactly one way.
* `Reads.countPlaceholders`, `Reads.fill`: counting the placeholders and filling them, which go over
  the format separately, both agree with the reading.
* `serialize_interleaves`: a command puts its arguments between these texts, or is malformed. -/

namespace Stencil
set_option autoImplicit false

/-! ## Reading a format -/

/-- The literal texts of a format: the one in front of the first placeholder, and those behind each
placeholder. -/
inductive Reads : List Char → List Char → List (List Char) → Prop
  | done : Reads [] [] []
  | slot {rest first : List Char} {later : List (List Char)} (h : Reads rest first later) :
      Reads ('%' :: 's' :: rest) [] (first :: later)
  | percent {rest first : List Char} {later : List (List Char)} (h : Reads rest first later) :
      Reads ('%' :: '%' :: rest) ('%' :: first) later
  /-- Before any other character, and at the end, a percent sign stands for itself. -/
  | stray {rest first : List Char} {later : List (List Char)}
      (other : rest.head? ≠ some 's' ∧ rest.head? ≠ some '%') (h : Reads rest first later) :
      Reads ('%' :: rest) ('%' :: first) later
  | plain {c : Char} {rest first : List Char} {later : List (List Char)} (other : c ≠ '%')
      (h : Reads rest first later) : Reads (c :: rest) (c :: first) later

theorem countPlaceholders_cons {c : Char} (other : c ≠ '%') (rest : List Char) :
    countPlaceholders (c :: rest) = countPlaceholders rest := by
  rw [countPlaceholders]
  · exact fun _ percent => absurd percent other
  · exact fun _ _ percent => absurd percent other

/-- The character that is passed over behind a stray percent sign is no placeholder by itself. -/
theorem countPlaceholders_stray {rest : List Char}
    (other : rest.head? ≠ some 's' ∧ rest.head? ≠ some '%') :
    countPlaceholders ('%' :: rest) = countPlaceholders rest := by
  cases rest with
  | nil => rfl
  | cons c rest =>
    simp only [List.head?_cons, ne_eq, Option.some.injEq] at other
    rw [countPlaceholders_cons other.2, countPlaceholders]
    exact other.1

theorem pieces_cons {c : Char} (other : c ≠ '%') (rest : List Char) :
    pieces (c :: rest) = .char c :: pieces rest :=
  Fills.pieces_plain [c] rest (by simpa using other.symm)

theorem pieces_stray {rest : List Char} (other : rest.head? ≠ some 's' ∧ rest.head? ≠ some '%') :
    pieces ('%' :: rest) = .char '%' :: pieces rest := by
  cases rest with
  | nil => rfl
  | cons c rest =>
    simp only [List.head?_cons, ne_eq, Option.some.injEq] at other
    rw [pieces_cons other.2, pieces]
    · exact other.1
    · exact other.2

theorem exists_reads (format : List Char) : ∃ first later, Reads format first later := by
  fun_induction pieces format with
  | case1 => exact ⟨[], [], .done⟩
  | case2 rest ih =>
    obtain ⟨first, later, h⟩ := ih
    exact ⟨[], first :: later, .slot h⟩
  | case3 rest ih =>
    obtain ⟨first, later, h⟩ := ih
    exact ⟨'%' :: first, later, .percent h⟩
  | case4 c rest hs hp ih =>
    obtain ⟨first, later, h⟩ := ih
    have other : (c :: rest).head? ≠ some 's' ∧ (c :: rest).head? ≠ some '%' := by
      simpa using ⟨hs, hp⟩
    exact ⟨'%' :: c :: first, later, .stray other (.plain hp h)⟩
  | case5 c rest _ _ last ih =>
    obtain ⟨first, later, h⟩ := ih
    by_cases percent : c = '%'
    · subst percent
      -- All other percent signs have been dealt with, so this one ends the format.
      cases rest with
      | nil => exact ⟨'%' :: first, later, .stray (by simp) h⟩
      | cons d rest => exact (last d rest rfl rfl).elim
    · exact ⟨c :: first, later, .plain percent h⟩

namespace Reads

variable {format first : List Char} {later : List (List Char)}

theorem unique (h : Reads format first later) {first' : List Char} {later' : List (List Char)}
    (h' : Reads format first' later') : first' = first ∧ later' = later := by
  induction h generalizing first' later' with
  | done =>
    cases h'
    exact ⟨rfl, rfl⟩
  | slot h ih =>
    cases h' with
    | slot h' =>
      obtain ⟨rfl, rfl⟩ := ih h'
      exact ⟨rfl, rfl⟩
    | stray other => simp at other
    | plain other => exact absurd rfl other
  | percent h ih =>
    cases h' with
    | percent h' =>
      obtain ⟨rfl, rfl⟩ := ih h'
      exact ⟨rfl, rfl⟩
    | stray other => simp at other
    | plain other => exact absurd rfl other
  | stray other h ih =>
    cases h' with
    | slot => simp at other
    | percent => simp at other
    | stray _ h' =>
      obtain ⟨rfl, rfl⟩ := ih h'
      exact ⟨rfl, rfl⟩
    | plain other => exact absurd rfl other
  | plain other h ih =>
    cases h' with
    | plain _ h' =>
      obtain ⟨rfl, rfl⟩ := ih h'
      exact ⟨rfl, rfl⟩
    | _ => exact absurd rfl other

theorem countPlaceholders (h : Reads format first later) :
    Stencil.countPlaceholders format = later.length := by
  induction h with
  | done => rfl
  | slot h ih => rw [Stencil.countPlaceholders, ih, List.length_cons]
  | percent h ih =>
    rw [Stencil.countPlaceholders, ih]
    decide
  | stray other h ih => rw [countPlaceholders_stray other, ih]
  | plain other h ih => rw [countPlaceholders_cons other, ih]

theorem fill (h : Reads format first later) {texts : List String}
    (count : texts.length = later.length) :
    Stencil.fill (pieces format) texts =
      first ++ (List.zipWith (fun text chunk => text.toList ++ chunk) texts later).flatten := by
  induction h generalizing texts with
  | done => simp [pieces, Stencil.fill]
  | slot h ih =>
    cases texts with
    | nil => simp at count
    | cons text texts =>
      rw [pieces, Stencil.fill, ih (Nat.succ.inj count)]
      simp
  | percent h ih => rw [pieces, Stencil.fill, ih count, List.cons_append]
  | stray other h ih => rw [pieces_stray other, Stencil.fill, ih count, List.cons_append]
  | plain other h ih => rw [pieces_cons other, Stencil.fill, ih count, List.cons_append]

end Reads

/-! ## Commands -/

/-- The texts, each with one of the chunks behind it. -/
def interleave (texts chunks : List String) : String :=
  String.join (List.zipWith (· ++ ·) texts chunks)

theorem toList_interleave (texts chunks : List String) :
    (interleave texts chunks).toList = (List.zipWith (fun text chunk => text.toList ++ chunk) texts
      (chunks.map String.toList)).flatten := by
  rw [interleave, String.toList_join, List.flatMap_def, List.map_zipWith, List.zipWith_map_right]
  simp

/-- The text with each percent sign written twice. -/
def doublePercents (text : String) : String :=
  String.ofList (text.toList.flatMap fun c => if c = '%' then ['%', '%'] else [c])

theorem reads_doublePercents (text : String) :
    Reads (doublePercents text).toList text.toList [] := by
  rw [doublePercents, String.toList_ofList]
  induction text.toList with
  | nil => exact .done
  | cons c rest ih =>
    rw [List.flatMap_cons]
    split
    · rename_i percent
      rw [percent]
      exact .percent ih
    · rename_i other
      exact .plain other ih

theorem Reads.placeholders {format : String} {first : List Char} {later : List (List Char)}
    (h : Reads format.toList first later) (args : List Arg) :
    (Command.mk format args).placeholders = later.length := by
  rw [Command.placeholders, h.countPlaceholders]

theorem Reads.serialize {format first : String} {later : List String}
    (h : Reads format.toList first.toList (later.map String.toList)) (args : List Arg) :
    (Command.mk format args).serialize =
      if args.length = later.length then .ok (first ++ interleave (args.map Arg.text) later)
      else .error (.here (.malformedCommand format later.length args.length)) := by
  rw [Command.serialize, h.placeholders args, List.length_map]
  by_cases same : args.length = later.length
  · rw [if_pos same, if_pos same.symm]
    have texts : (args.map Arg.text).length = (later.map String.toList).length := by simpa using same
    rw [h.fill texts, ← toList_interleave, ← String.toList_append, String.ofList_toList]
  · rw [if_neg same, if_neg (Ne.symm same)]

/-- Every format has exactly one reading, and a command gives the texts of this reading with its
arguments between them; a wrong number of arguments is refused. Doubling the percent signs of a text
makes a format that gives back the text. -/
theorem serialize_interleaves (format text : String) :
    (∃ (first : String) (later : List String),
      (∀ chunk chunks, Reads format.toList chunk chunks ↔
        chunk = first.toList ∧ chunks = later.map String.toList) ∧
      ∀ args : List Arg, (Command.mk format args).placeholders = later.length ∧
        (Command.mk format args).serialize =
          if args.length = later.length then .ok (first ++ interleave (args.map Arg.text) later)
          else .error (.here (.malformedCommand format later.length args.length))) ∧
    (Command.mk (doublePercents text) []).placeholders = 0 ∧
    (Command.mk (doublePercents text) []).serialize = .ok text := by
  constructor
  · obtain ⟨first, later, h⟩ := exists_reads format.toList
    have read : Reads format.toList (String.ofList first).toList
        ((later.map String.ofList).map String.toList) := by
      simpa [Function.comp_def] using h
    refine ⟨String.ofList first, later.map String.ofList, fun chunk chunks => ⟨read.unique, ?_⟩,
      fun args => ⟨?_, read.serialize args⟩⟩
    · rintro ⟨rfl, rfl⟩
      exact read
    · rw [read.placeholders args, List.length_map]
  · have read : Reads (doublePercents text).toList text.toList ([].map String.toList) :=
      reads_doublePercents text
    refine ⟨read.placeholders [], ?_⟩
    rw [read.serialize []]
    simp [interleave]

/-- A run of two percent signs before a letter, a run of three, and one at the end. -/
example : (Command.mk "%%s %%%s%" [.literal "%s"]).serialize = .ok "%s %%s%" := by rfl

end Stencil
