import Stencil.Proofs.Lines
import Stencil.Proofs.Spelling
import Stencil.Template

/-! Wrapping a segment loses nothing.

* `Registry.compact_of_compile`: what standard handlers make is compact. Strings have no raw control
  characters, and a body leaves out children that compile to nothing.
* `splitOn_wrapFunction`: the lines of a wrapped segment.
* `unwrap`: takes the segment out of a wrapped source. -/

namespace Stencil
set_option autoImplicit false

open Outcome Text

/-! ## Segments are compact -/

theorem additive_compact : Additive Compact := ⟨Compact.of_printable, Compact.append⟩

theorem Handler.compact_of_segment {registry : Registry} {handler : Handler}
    (standard : handler.IsStandard) {type : String} {children : OrderedMap Node}
    {attributes : OrderedMap Attribute} {segment : String}
    (ih : ∀ entry ∈ children, ∀ text, registry.compile entry.2 = .ok text → Compact text.toList)
    (h : handler.segment type attributes (children.map registry.compiled) = .ok segment) :
    Compact segment.toList := by
  by_cases body : handler = .body
  · subst body
    rw [segment_body] at h
    obtain ⟨segments, all, rfl⟩ := map_eq_ok.mp h
    refine Compact.joinLines (fun text mem => ?_) fun text mem => ?_
    · obtain ⟨entry, among, here⟩ := Registry.exists_of_segments all (List.mem_of_mem_filter mem)
      exact ih entry among text here
    · simpa using (List.mem_filter.mp mem).2
  · exact additive_of_segment additive_compact standard body ih h

theorem Registry.compact_of_compile {registry : Registry} (standard : registry.OnlyStandard)
    {root : Node} {segment : String} (compiled : registry.compile root = .ok segment) :
    Compact segment.toList := by
  induction root using Node.induction generalizing segment with
  | step type children attributes ih =>
    obtain ⟨handler, bound, compiled⟩ := compile_eq_ok.mp compiled
    exact Handler.compact_of_segment (standard type handler bound)
      (fun entry mem text here => ih entry mem here) compiled

/-! ## Wrapped sources -/

namespace Options

/-- The first line of a wrapped source. -/
def headLine (options : Options) : String :=
  match options.exportName with
  | some name => "var " ++ name ++ " = function (context) \x7b"
  | none => "function (context) \x7b"

/-- The last line of a wrapped source. -/
def lastLine (options : Options) : String :=
  if options.exportName.isSome then "\x7d;" else "\x7d"

/-- The line behind as many spaces as the options ask for. -/
def indented (options : Options) (line : List Char) : List Char :=
  List.replicate options.indent ' ' ++ line

theorem drop_indented (options : Options) (line : List Char) :
    (options.indented line).drop options.indent = line := by
  simp [indented]

theorem lineFeed_not_mem_indented {options : Options} {line : List Char} (h : '\n' ∉ line) :
    '\n' ∉ options.indented line := by
  have space : '\n' ≠ ' ' := by decide
  simp [indented, h, space]

end Options

theorem printable_of_identifierPart {c : Char} (h : identifierPart c = true) : 0x20 ≤ c.toNat := by
  have letter : c.isAlpha =
      (decide ('A'.val ≤ c.val ∧ c.val ≤ 'Z'.val) ||
        decide ('a'.val ≤ c.val) && decide (c.val ≤ 'z'.val)) := rfl
  simp only [identifierPart, identifierStart, letter, Char.isDigit, Bool.or_eq_true, Bool.and_eq_true,
    decide_eq_true_eq, beq_iff_eq] at h
  have large : ∀ n : UInt32, n ≤ c.val → n.toNat ≤ c.toNat := fun n h => h
  obtain (((⟨low, -⟩ | ⟨low, -⟩) | rfl) | rfl) | ⟨low, -⟩ := h
  · exact Nat.le_trans (by decide) (large _ low)
  · exact Nat.le_trans (by decide) (large _ low)
  · decide
  · decide
  · exact Nat.le_trans (by decide) (large _ low)

theorem printable_of_isIdentifier {name : String} (h : isIdentifier name = true) :
    ∀ c ∈ name.toList, 0x20 ≤ c.toNat := by
  intro c mem
  unfold isIdentifier at h
  split at h
  · cases h
  · rename_i first rest chars
    rw [chars] at mem
    simp only [Bool.and_eq_true, List.all_eq_true] at h
    obtain ⟨⟨start, parts⟩, -⟩ := h
    rcases List.mem_cons.mp mem with rfl | mem
    · exact printable_of_identifierPart (by simp [identifierPart, start])
    · exact printable_of_identifierPart (parts c mem)

theorem lineFeed_not_mem_headLine {options : Options} (valid : options.defect? = none) :
    '\n' ∉ options.headLine.toList := by
  unfold Options.defect? at valid
  unfold Options.headLine
  cases given : options.exportName with
  | none => decide
  | some name =>
    rw [given] at valid
    have identifier : isIdentifier name = true := by
      by_contra other
      simp [other] at valid
    have plain : '\n' ∉ name.toList := fun mem =>
      absurd (printable_of_isIdentifier identifier _ mem) (by decide)
    simp [plain]

/-- The lines of a source that wraps a compact segment. -/
def wrappedLines (options : Options) (segment : String) : List (List Char) :=
  options.headLine.toList :: options.indented "var html = \"\";".toList ::
    ((compactLines segment.toList).map options.indented ++
      [options.indented "return html;".toList, options.lastLine.toList])

theorem lineFeed_not_mem_wrappedLines {options : Options} (valid : options.defect? = none)
    (segment : String) : ∀ line ∈ wrappedLines options segment, '\n' ∉ line := by
  intro line mem
  simp only [wrappedLines, List.mem_cons, List.mem_append, List.mem_map, List.not_mem_nil,
    or_false] at mem
  rcases mem with rfl | rfl | ⟨inner, among, rfl⟩ | rfl | rfl
  · exact lineFeed_not_mem_headLine valid
  · exact Options.lineFeed_not_mem_indented (by decide)
  · exact Options.lineFeed_not_mem_indented (lineFeed_not_mem_compactLines among)
  · exact Options.lineFeed_not_mem_indented (by decide)
  · unfold Options.lastLine
    split <;> decide

theorem wrapFunction_eq_joinLines (options : Options) (body : String) :
    wrapFunction options body =
      joinLines (options.headLine :: functionLines options.indent body ++ [options.lastLine]) := by
  have filled : functionLines options.indent body ≠ [] := List.cons_ne_nil _ _
  have joined : joinLines (options.headLine :: functionLines options.indent body ++
      [options.lastLine]) = options.headLine ++ "\n" ++
        joinLines (functionLines options.indent body) ++ "\n" ++ options.lastLine := by
    rw [joinLines, List.cons_append, String.intercalate_cons_of_ne_nil (by simp),
      String.intercalate_append_of_ne_nil filled (by simp), String.intercalate_singleton]
    simp [joinLines, String.append_assoc]
  rw [joined, ← String.toList_inj]
  unfold wrapFunction Options.headLine Options.lastLine
  cases options.exportName <;> simp

theorem functionLines_eq {segment : String} (compact : Compact segment.toList)
    (options : Options) : (functionLines options.indent segment).map String.toList =
      options.indented "var html = \"\";".toList ::
        ((compactLines segment.toList).map options.indented ++
          [options.indented "return html;".toList]) := by
  have body : ((lines segment.toList).map (indentLine options.indent)).map String.toList =
      (compactLines segment.toList).map options.indented := by
    rw [lines_of_compact compact, List.map_map]
    refine List.map_congr_left fun line mem => ?_
    have filled : line ≠ [] := fun none => nil_not_mem_compactLines compact (none ▸ mem)
    simp [indentLine, filled, Options.indented]
  simp [functionLines, Options.indented, ← body]

theorem splitOn_wrapFunction {options : Options} (valid : options.defect? = none)
    {segment : String} (compact : Compact segment.toList) :
    (wrapFunction options segment).toList.splitOn '\n' = wrappedLines options segment := by
  have joined : (wrapFunction options segment).toList =
      ['\n'].intercalate (wrappedLines options segment) := by
    rw [wrapFunction_eq_joinLines, joinLines, String.toList_intercalate]
    simp [wrappedLines, functionLines_eq compact]
  rw [joined]
  exact List.splitOn_intercalate '\n' (lineFeed_not_mem_wrappedLines valid segment) (by simp [wrappedLines])

/-! ## Unwrapping -/

/-- What a wrapped source holds: its lines without the first two and the last two, each without its
first `indent` characters. -/
def unwrap (indent : Nat) (source : String) : String :=
  let inside := ((source.toList.splitOn '\n').drop 2).dropLast.dropLast
  String.ofList (['\n'].intercalate (inside.map (List.drop indent)))

theorem unwrap_wrapFunction {options : Options} (valid : options.defect? = none)
    {segment : String} (compact : Compact segment.toList) :
    unwrap options.indent (wrapFunction options segment) = segment := by
  have inside : ((wrappedLines options segment).drop 2).dropLast.dropLast =
      (compactLines segment.toList).map options.indented := by
    simp [wrappedLines]
  have undone : List.drop options.indent ∘ options.indented = id :=
    funext fun line => options.drop_indented line
  rw [unwrap, splitOn_wrapFunction valid compact, inside, List.map_map, undone, List.map_id,
    intercalate_compactLines, String.ofList_toList]

/-- The wrapped source of a tree is the head of the function, the lines of the tree's segment behind
the same number of spaces as the two statements around them, and the end of the function. Taking the
spaces away again gives back the segment, so trees with different segments have different sources. -/
theorem wrapping_keeps_segment (options : Options) (wrap : options.wrap = true)
    (valid : options.defect? = none) (name : String) (root : Node) (segment : String)
    (compiled : Registry.standard.compile root = .ok segment) :
    ∃ template, Registry.standard.compileTemplate name options root = .ok template ∧
      template.source.toList.splitOn '\n' =
        options.headLine.toList :: options.indented "var html = \"\";".toList ::
          ((compactLines segment.toList).map options.indented ++
            [options.indented "return html;".toList, options.lastLine.toList]) ∧
      unwrap options.indent template.source = segment ∧
      ∀ otherName other otherSegment otherTemplate,
        Registry.standard.compile other = .ok otherSegment →
        Registry.standard.compileTemplate otherName options other = .ok otherTemplate →
        (template.source = otherTemplate.source ↔ segment = otherSegment) := by
  have source : sourceOf options segment = wrapFunction options segment := if_pos wrap
  have compact := Registry.compact_of_compile Registry.onlyStandard_standard compiled
  refine ⟨⟨name, wrapFunction options segment, fingerprint (wrapFunction options segment)⟩, ?_,
    splitOn_wrapFunction valid compact, unwrap_wrapFunction valid compact, ?_⟩
  · rw [Registry.compileTemplate, compiled, ← source]
    rfl
  · intro otherName other otherSegment otherTemplate compiledOther made
    have compactOther := Registry.compact_of_compile Registry.onlyStandard_standard compiledOther
    have otherSource : otherTemplate.source = wrapFunction options otherSegment := by
      rw [Registry.compileTemplate, compiledOther] at made
      cases made
      exact if_pos wrap
    rw [otherSource]
    constructor
    · intro same
      have back := congrArg (unwrap options.indent) same
      rwa [unwrap_wrapFunction valid compact, unwrap_wrapFunction valid compactOther] at back
    · exact congrArg (wrapFunction options)

/-- A body whose first child is an empty body, whose second prints the end of a line and whose third
prints a sequence of two lines. -/
theorem wrapping_keeps_lines_of_page :
    let options : Options := { indent := 2, exportName := some "page" }
    let text (data : String) := (Node.leaf "text").withAttr "data" (.text data)
    let inner := ((Node.leaf "body").withChild "0" (text "b")).withChild "1" (text "c")
    let root := (((Node.leaf "body").withChild "0" (.leaf "body")).withChild "1"
      (text "a\r\n")).withChild "2" ((Node.leaf "print").withChild "expr" inner)
    let segment := "html += \"a\\r\\n\";\nhtml += html += \"b\";\nhtml += \"c\";;"
    options.wrap = true ∧ options.defect? = none ∧ Registry.standard.compile root = .ok segment ∧
      ∃ template, Registry.standard.compileTemplate "page" options root = .ok template ∧
        template.source.toList.splitOn '\n' =
          ["var page = function (context) \x7b".toList, "  var html = \"\";".toList,
            "  html += \"a\\r\\n\";".toList, "  html += html += \"b\";".toList,
            "  html += \"c\";;".toList, "  return html;".toList, "\x7d;".toList] ∧
        unwrap 2 template.source = segment := by
  intro options text inner root segment
  have valid : options.defect? = none := by decide
  have compiled : Registry.standard.compile root = .ok segment := by
    unfold root inner text segment
    rfl
  obtain ⟨template, made, lines, kept, -⟩ :=
    wrapping_keeps_segment options rfl valid "page" root segment compiled
  exact ⟨rfl, valid, compiled, template, made, lines.trans (by decide), kept⟩

end Stencil
