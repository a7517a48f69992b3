import Stencil.Proofs.Outcome
import Stencil.Proofs.Tree

/-! What each standard handler makes of a node.

* `Fills format args text`: filling the format with the arguments gives the text, wherever the format
  stands in a longer one. Formats that are put together fill to texts that are put together.
* `segment_body` ... `segment_hash`: one equation for each standard handler, which gives the segment of
  a node in terms of the segments of its children. No standard handler makes a malformed command.
* `Registry.exists_of_find?`, `Registry.exists_of_segments`: what handlers get from children is what
  these compile to. -/

namespace Stencil
set_option autoImplicit false

open Outcome

/-! ## Filling formats -/

/-- How many placeholders there are among the pieces. -/
def slotCount (ps : List Piece) : Nat := ps.countP (· == .slot)

/-- Counting and cutting into pieces go over a format separately, and agree. -/
theorem countPlaceholders_eq (format : List Char) :
    countPlaceholders format = slotCount (pieces format) := by
  fun_induction pieces format with
  | case1 => rfl
  | case2 rest ih => simp [countPlaceholders, slotCount, ih]
  | case3 rest ih => simp [countPlaceholders, slotCount, ih]
  | case4 c rest letter _ ih =>
    rw [countPlaceholders]
    · simp [slotCount, ih]
    · exact letter
  | case5 c rest slot percent last ih =>
    rw [countPlaceholders]
    · simp [slotCount, ih]
    · exact slot
    · exact last

theorem slotCount_append (ps qs : List Piece) :
    slotCount (ps ++ qs) = slotCount ps + slotCount qs := by
  unfold slotCount
  exact List.countP_append

/-- Pieces one after the other take their arguments one after the other. -/
theorem fill_append (ps qs : List Piece) (texts more : List String)
    (h : slotCount ps = texts.length) :
    fill (ps ++ qs) (texts ++ more) = fill ps texts ++ fill qs more := by
  induction ps generalizing texts with
  | nil =>
    have none : texts = [] := List.eq_nil_of_length_eq_zero (by simpa [slotCount] using h.symm)
    rw [none]
    rfl
  | cons p ps ih =>
    cases p with
    | char c =>
      have tail : slotCount ps = texts.length := by simpa [slotCount] using h
      rw [List.cons_append, fill, fill, ih texts tail, List.cons_append]
    | slot =>
      cases texts with
      | nil => simp [slotCount] at h
      | cons text texts =>
        have tail : slotCount ps = texts.length := by simpa [slotCount] using h
        rw [List.cons_append, List.cons_append, fill, fill, ih texts tail, List.append_assoc]

/-- The format takes these arguments and gives this text, and what follows it in a longer format is
read as if it stood alone. -/
structure Fills (format : String) (args : List String) (text : String) : Prop where
  whole : ∀ rest, pieces (format.toList ++ rest) = pieces format.toList ++ pieces rest
  count : slotCount (pieces format.toList) = args.length
  filled : fill (pieces format.toList) args = text.toList

namespace Fills

variable {format other text more : String} {args rest : List String}

theorem append (first : Fills format args text) (second : Fills other rest more) :
    Fills (format ++ other) (args ++ rest) (text ++ more) where
  whole tail := by
    rw [String.toList_append, List.append_assoc, first.whole, second.whole, first.whole,
      List.append_assoc]
  count := by
    rw [String.toList_append, first.whole, slotCount_append, first.count, second.count,
      List.length_append]
  filled := by
    rw [String.toList_append, first.whole, fill_append _ _ _ _ first.count, first.filled,
      second.filled, String.toList_append]

theorem slot (text : String) : Fills "%s" [text] text where
  whole _ := rfl
  count := rfl
  filled := List.append_nil _

theorem pieces_plain (cs rest : List Char) (h : '%' ∉ cs) :
    pieces (cs ++ rest) = cs.map .char ++ pieces rest := by
  induction cs with
  | nil => rfl
  | cons c cs ih =>
    have hc : c ≠ '%' := fun e => h (e ▸ List.mem_cons_self ..)
    rw [List.cons_append, pieces, ih (fun m => h (List.mem_cons_of_mem c m))]
    · rfl
    all_goals simp [hc]

/-- A text without percent signs stands for itself. -/
theorem plain (text : String) (h : '%' ∉ text.toList) : Fills text [] text := by
  have read : pieces text.toList = text.toList.map .char := by
    have alone := pieces_plain text.toList [] h
    rwa [List.append_nil, pieces, List.append_nil] at alone
  refine ⟨fun rest => ?_, ?_, ?_⟩
  · rw [read]
    exact pieces_plain text.toList rest h
  · rw [read]
    simp [slotCount, List.countP_eq_zero]
  · rw [read]
    generalize text.toList = cs
    induction cs with
    | nil => rfl
    | cons c cs ih => rw [List.map_cons, fill, ih]

/-- A command whose format takes its arguments serializes to what the format gives. -/
theorem serialize {command : Command} (h : Fills command.format (command.args.map Arg.text) text) :
    command.serialize = .ok text := by
  have count : command.placeholders = command.args.length := by
    rw [Command.placeholders, countPlaceholders_eq, h.count, List.length_map]
  rw [Command.serialize, if_pos count, h.filled, String.ofList_toList]

end Fills

/-! ## Commands -/

theorem serializeAll_singleton (command : Command) :
    serializeAll [command] = command.serialize := by
  unfold serializeAll
  rw [List.mapM_cons]
  cases command.serialize <;> rfl

theorem serializeAll_verbatim (segments : List String) :
    serializeAll (segments.map Command.verbatim) = .ok (Text.joinLines segments) := by
  have all : (segments.map Command.verbatim).mapM Command.serialize = .ok segments := by
    induction segments with
    | nil => rfl
    | cons segment rest ih =>
      rw [List.map_cons, mapM_cons_eq_ok]
      exact ⟨segment, rest, (Fills.slot segment).serialize, ih, rfl⟩
  rw [serializeAll, all]
  rfl

theorem serialize_append (arg : Arg) :
    (Command.mk Handler.appendFormat [arg]).serialize = .ok ("html += " ++ arg.text ++ ";") :=
  Fills.serialize (((Fills.plain "html += " (by decide)).append (.slot arg.text)).append
    (.plain ";" (by decide)))

theorem serialize_name (arg : Arg) :
    (Command.mk "context[%s]" [arg]).serialize = .ok ("context[" ++ arg.text ++ "]") :=
  Fills.serialize (((Fills.plain "context[" (by decide)).append (.slot arg.text)).append
    (.plain "]" (by decide)))

theorem serialize_include (target data marker flag : Arg) :
    (Command.mk Handler.includeFormat [target, data, marker, flag]).serialize =
      .ok ("html += render(" ++ target.text ++ ", " ++ data.text ++ ", " ++ marker.text ++ ", " ++
        flag.text ++ ");") := by
  have comma : Fills ", " [] ", " := .plain ", " (by decide)
  exact Fills.serialize (((((((((Fills.plain "html += render(" (by decide)).append
    (.slot target.text)).append comma).append (.slot data.text)).append comma).append
    (.slot marker.text)).append comma).append (.slot flag.text)).append (.plain ");" (by decide)))

/-! ## Mappings -/

def pairFormat (type : String) : String := if type = "constant" then "%s: %s" else "[%s]: %s"

/-- The text of a pair. A key that is no constant stands in brackets. -/
def pairText (type key value : String) : String :=
  if type = "constant" then key ++ ": " ++ value else "[" ++ key ++ "]: " ++ value

/-- The texts of the pairs, from the types of the children and their segments. -/
def pairTexts : List Compiled → List String → List String
  | key :: _ :: rest, k :: v :: segments => pairText key.type k v :: pairTexts rest segments
  | _, _ => []

theorem fills_pairFormat (type key value : String) :
    Fills (pairFormat type) [key, value] (pairText type key value) := by
  unfold pairFormat pairText
  split
  · exact ((Fills.slot key).append (.plain ": " (by decide))).append (.slot value)
  · exact (((Fills.plain "[" (by decide)).append (.slot key)).append
      (.plain "]: " (by decide))).append (.slot value)

/-- The formats of the pairs take two arguments for each pair. The recursion goes from pair to pair. -/
theorem fills_pairFormats : ∀ (children : List Compiled) (segments : List String),
    children.length % 2 = 0 → segments.length = children.length →
    Fills (String.intercalate ", " (Handler.pairFormats children)) segments
      (String.intercalate ", " (pairTexts children segments))
  | [], [], _, _ => .plain "" (by decide)
  | [_], _, even, _ => by simp at even
  | [key, _], [k, v], _, _ => fills_pairFormat key.type k v
  | [_, _, _], _, even, _ => by simp at even
  | key :: _ :: key' :: value' :: rest, k :: v :: k' :: v' :: segments, even, same => by
    have even' : (key' :: value' :: rest).length % 2 = 0 := by
      simp only [List.length_cons] at even ⊢
      omega
    have same' : (k' :: v' :: segments).length = (key' :: value' :: rest).length := by
      simp only [List.length_cons] at same ⊢
      omega
    have ih := fills_pairFormats (key' :: value' :: rest) (k' :: v' :: segments) even' same'
    rw [Handler.pairFormats, Handler.pairFormats, pairTexts, pairTexts,
      String.intercalate_cons_cons, String.intercalate_cons_cons]
    exact ((fills_pairFormat key.type k v).append (.plain ", " (by decide))).append ih

theorem serialize_hash (children : List Compiled) (segments : List String)
    (even : children.length % 2 = 0) (same : segments.length = children.length) :
    (Command.mk ("\x7b" ++ String.intercalate ", " (Handler.pairFormats children) ++ "\x7d")
      (segments.map Arg.segment)).serialize =
      .ok ("\x7b" ++ String.intercalate ", " (pairTexts children segments) ++ "\x7d") := by
  have filled := ((Fills.plain "\x7b" (by decide)).append
    (fills_pairFormats children segments even same)).append (.plain "\x7d" (by decide))
  rw [List.append_nil] at filled
  refine Fills.serialize ?_
  have texts : (segments.map Arg.segment).map Arg.text = segments := by
    rw [List.map_map]
    exact List.map_id segments
  rw [texts]
  exact filled

/-! ## Handlers -/

namespace Handler

variable (type : String) (attributes : OrderedMap Attribute) (children : List Compiled)

theorem bodyCommands_eq : bodyCommands children = (children.mapM Compiled.segment).map
    fun segments => (segments.filter (!·.isEmpty)).map Command.verbatim := by
  induction children with
  | nil => rfl
  | cons child rest ih =>
    rw [bodyCommands, List.mapM_cons, ih]
    cases child.segment with
    | error fault => rfl
    | ok segment =>
      cases rest.mapM Compiled.segment with
      | error fault => rfl
      | ok segments =>
        cases h : segment.isEmpty <;>
          simp [bind, Except.bind, Except.map, pure, Except.pure, h]

/-- A body is its children's segments, one below the other, without the empty ones. -/
theorem segment_body : body.segment type attributes children =
    (children.mapM Compiled.segment).map fun segments =>
      Text.joinLines (segments.filter (!·.isEmpty)) := by
  rw [segment, commands, bodyCommands_eq]
  cases children.mapM Compiled.segment with
  | error fault => rfl
  | ok segments => exact serializeAll_verbatim _

theorem segment_text : text.segment type attributes children =
    match attributes.get? "data" with
    | some (.text data) => .ok ("html += " ++ Text.quote data ++ ";")
    | some other => .error (.here (.notImplemented type ("with " ++ other.kind ++ " data")))
    | none => .error (.here (.notImplemented type "without data")) := by
  rw [segment, commands, textCommands]
  cases attributes.get? "data" with
  | none => rfl
  | some value =>
    cases value with
    | text data => exact (serializeAll_singleton _).trans (serialize_append (.quoted data))
    | _ => rfl

theorem segment_print : print.segment type attributes children =
    (Compiled.require type "expr" children).map fun expr => "html += " ++ expr ++ ";" := by
  rw [segment, commands, printCommands]
  cases Compiled.require type "expr" children with
  | error fault => rfl
  | ok expr => exact (serializeAll_singleton _).trans (serialize_append (.segment expr))

def includeText (attributes : OrderedMap Attribute) (target : String) (data : Option String) :
    String :=
  "html += render(" ++ target ++ ", " ++ data.getD emptyMapping ++ ", " ++
    contextMarker attributes ++ ", " ++ missingFlag attributes ++ ");"

theorem segment_include : Handler.include.segment type attributes children = (do
    let target ← Compiled.require type "expr" children
    let data ← Compiled.find? "variables" children
    return includeText attributes target data) := by
  rw [segment, commands, includeCommands]
  cases Compiled.require type "expr" children with
  | error fault => rfl
  | ok target =>
    cases Compiled.find? "variables" children with
    | error fault => rfl
    | ok data =>
      cases data with
      | none =>
        have line := serialize_include (.segment target) (.literal emptyMapping)
          (.literal (contextMarker attributes)) (.literal (missingFlag attributes))
        exact (serializeAll_singleton _).trans line
      | some data =>
        have line := serialize_include (.segment target) (.segment data)
          (.literal (contextMarker attributes)) (.literal (missingFlag attributes))
        exact (serializeAll_singleton _).trans line

theorem segment_constant : constant.segment type attributes children =
    (literal (attributes.get? "value")).mapError fun detail =>
      .here (.notImplemented type detail) := by
  rw [segment, commands, constantCommands]
  cases literal (attributes.get? "value") with
  | error detail => rfl
  | ok source => exact (serializeAll_singleton _).trans (Fills.slot source).serialize

theorem segment_name : name.segment type attributes children =
    match (attributes.get? "name").bind Attribute.text? with
    | some key => .ok ("context[" ++ Text.quote key ++ "]")
    | none => .error (.here (.notImplemented type "without a string 'name' attribute")) := by
  rw [segment, commands, nameCommands]
  cases (attributes.get? "name").bind Attribute.text? with
  | none => rfl
  | some key => exact (serializeAll_singleton _).trans (serialize_name (.quoted key))

theorem segment_hash : hash.segment type attributes children =
    if children.length % 2 = 0 then
      (children.mapM Compiled.segment).map fun segments =>
        "\x7b" ++ String.intercalate ", " (pairTexts children segments) ++ "\x7d"
    else .error (.here (.notImplemented type
      ("with " ++ toString children.length ++ " children (key without value)"))) := by
  rw [segment, commands, hashCommands]
  by_cases even : children.length % 2 = 0
  · rw [if_neg (by simpa using even), if_pos even]
    cases h : children.mapM Compiled.segment with
    | error fault => rfl
    | ok segments =>
      have line := serialize_hash children segments even (length_of_mapM h)
      exact (serializeAll_singleton _).trans line
  · rw [if_pos (by simpa using even), if_neg even]
    rfl

end Handler

/-! ## Segments of children -/

namespace Registry

variable {registry : Registry} {children : OrderedMap Node} {name : String} {segment : String}

theorem exists_of_find?
    (h : Compiled.find? name (children.map registry.compiled) = .ok (some segment)) :
    ∃ child, (name, child) ∈ children ∧ registry.compile child = .ok segment := by
  rw [find?_compiled] at h
  cases found : children.get? name with
  | none =>
    rw [found] at h
    cases h
  | some child =>
    rw [found] at h
    obtain ⟨text, here, same⟩ := map_eq_ok.mp h
    cases same
    exact ⟨child, OrderedMap.mem_of_get? found, mapError_eq_ok.mp here⟩

theorem exists_of_require {type : String}
    (h : Compiled.require type name (children.map registry.compiled) = .ok segment) :
    ∃ child, (name, child) ∈ children ∧ registry.compile child = .ok segment := by
  obtain ⟨found, looked, taken⟩ := bind_eq_ok.mp h
  cases found with
  | none => cases taken
  | some text =>
    cases taken
    exact exists_of_find? looked

theorem exists_of_segments {segments : List String}
    (h : (children.map registry.compiled).mapM Compiled.segment = .ok segments)
    (mem : segment ∈ segments) : ∃ entry ∈ children, registry.compile entry.2 = .ok segment := by
  rw [List.mapM_map] at h
  obtain ⟨entry, among, here⟩ := exists_of_mem_mapM h mem
  exact ⟨entry, among, mapError_eq_ok.mp here⟩

end Registry

/-- The keys among the children of a mapping, which alternate with the values. -/
def mappingKeys : List (String × Node) → List (String × Node)
  | key :: _ :: rest => key :: mappingKeys rest
  | _ => []

theorem mem_of_mem_mappingKeys : ∀ {children : List (String × Node)} {key : String × Node},
    key ∈ mappingKeys children → key ∈ children
  | [], _, mem => nomatch mem
  | [_], _, mem => nomatch mem
  | first :: _ :: rest, key, mem => by
    rw [mappingKeys] at mem
    rcases List.mem_cons.mp mem with rfl | mem
    · exact List.mem_cons_self ..
    · exact List.mem_cons_of_mem _ (List.mem_cons_of_mem _ (mem_of_mem_mappingKeys mem))

/-- Each pair of a mapping is made of what a key and another child compile to. -/
theorem Registry.exists_of_pairTexts {registry : Registry} :
    ∀ {children : List (String × Node)} {segments : List String} {text : String},
      (children.map registry.compiled).mapM Compiled.segment = .ok segments →
      text ∈ pairTexts (children.map registry.compiled) segments →
      ∃ key ∈ mappingKeys children, ∃ value ∈ children, ∃ k v,
        registry.compile key.2 = .ok k ∧ registry.compile value.2 = .ok v ∧
          text = pairText key.2.type k v
  | [], _, _, _, mem => by simp [pairTexts] at mem
  | [_], _, _, _, mem => by simp [pairTexts] at mem
  | key :: value :: rest, segments, text, all, mem => by
    rw [List.map_cons, List.map_cons] at all mem
    obtain ⟨k, behind, hk, below, rfl⟩ := mapM_cons_eq_ok.mp all
    obtain ⟨v, others, hv, tail, rfl⟩ := mapM_cons_eq_ok.mp below
    rw [pairTexts] at mem
    rw [mappingKeys]
    rcases List.mem_cons.mp mem with same | mem
    · exact ⟨key, by simp, value, by simp, k, v, mapError_eq_ok.mp hk, mapError_eq_ok.mp hv, same⟩
    · obtain ⟨key', hkey, value', hvalue, rest⟩ := exists_of_pairTexts tail mem
      exact ⟨key', by simp [hkey], value', by simp [hvalue], rest⟩

end Stencil
