import Stencil.Proofs.Numeral
import Stencil.Proofs.Quoted
import Stencil.Proofs.Segment

/-! Constants, variables and mappings compile to expressions of the target language.

* `IsExpression`, `IsPair`, `IsKey`: the grammar of expressions. A parameter says whether a number that
  names a member may have a sign. The target language allows none.
* `Node.IsExpressionTree`: trees of constants, variables and mappings.
* `Node.hasSignedKey`: whether a mapping in such a tree has a negative number for a key. Keys that are
  constants are not computed, so the sign stands before the name.
* `Registry.segment_isExpression`: a signed name is all that can be wrong with the segment of such a
  tree. It is wrong, see `signed_key_is_no_expression`. -/

namespace Stencil
set_option autoImplicit false

open Outcome

/-! ## The grammar -/

/-- A string literal, read to its end. -/
def IsStringLiteral (text : String) : Prop := ∃ value, Text.unquote? text.toList = some (value, [])

def wordLiterals : List String := ["true", "false", "null"]

mutual

/-- A text that is an expression. -/
inductive IsExpression (signed : Bool) : String → Prop
  | string {text : String} (h : IsStringLiteral text) : IsExpression signed text
  | number {text : String} (negative : Bool) (h : IsSigned negative text) : IsExpression signed text
  | word {text : String} (h : text ∈ wordLiterals) : IsExpression signed text
  | variable {text : String} (h : IsStringLiteral text) :
      IsExpression signed ("context[" ++ text ++ "]")
  | mapping {pairs : List String} (h : ∀ pair ∈ pairs, IsPair signed pair) :
      IsExpression signed ("\x7b" ++ String.intercalate ", " pairs ++ "\x7d")

/-- A member of a mapping. -/
inductive IsPair (signed : Bool) : String → Prop
  | mk {key value : String} (hk : IsKey signed key) (hv : IsExpression signed value) :
      IsPair signed (key ++ ": " ++ value)

/-- The name of a member. A computed one is an expression in brackets. -/
inductive IsKey (signed : Bool) : String → Prop
  | string {text : String} (h : IsStringLiteral text) : IsKey signed text
  | number {text : String} (negative : Bool) (allowed : negative = true → signed = true)
      (h : IsSigned negative text) : IsKey signed text
  | word {text : String} (h : text ∈ wordLiterals) : IsKey signed text
  | computed {text : String} (h : IsExpression signed text) : IsKey signed ("[" ++ text ++ "]")

end

theorem isStringLiteral_quote (text : String) : IsStringLiteral (Text.quote text) := by
  have read := Text.unquote?_quote text []
  rw [List.append_nil] at read
  exact ⟨text.toList, read⟩

/-! ## Literals -/

/-- Whether the value is written with a sign. -/
def Attribute.isNegative : Attribute → Bool
  | .int n => n.toInt < 0
  | .float x => x.isNegative
  | _ => false

/-- What the literal of a constant's value can be. -/
theorem literal_cases {value : Option Attribute} {source : String}
    (h : Handler.literal value = .ok source) :
    IsStringLiteral source ∨ source ∈ wordLiterals ∨
      IsSigned (value.any Attribute.isNegative) source := by
  match value with
  | none => cases h; exact .inr (.inl (by decide))
  | some .null => cases h; exact .inr (.inl (by decide))
  | some (.bool b) => cases h; cases b <;> exact .inr (.inl (by decide))
  | some (.int n) =>
    rw [Handler.literal] at h
    split at h
    · cases h; exact .inr (.inr (isSigned_int n.toInt))
    · cases h
  | some (.float x) =>
    rw [Handler.literal] at h
    split at h
    · rename_i finite
      cases h; exact .inr (.inr (isSigned_plain finite))
    · cases h
  | some (.text s) => cases h; exact .inl (isStringLiteral_quote s)

theorem isExpression_literal {value : Option Attribute} {source : String} {signed : Bool}
    (h : Handler.literal value = .ok source) : IsExpression signed source := by
  rcases literal_cases h with string | word | number
  · exact .string string
  · exact .word word
  · exact .number _ number

theorem isKey_literal {value : Option Attribute} {source : String} {signed : Bool}
    (h : Handler.literal value = .ok source)
    (allowed : value.any Attribute.isNegative = true → signed = true) : IsKey signed source := by
  rcases literal_cases h with string | word | number
  · exact .string string
  · exact .word word
  · exact .number _ allowed number

/-! ## Trees -/

namespace Node

/-- A tree of constants, variables and mappings. Nothing looks at children of constants and
variables. -/
inductive IsExpressionTree : Node → Prop
  | constant (children : List (String × Node)) (attributes : OrderedMap Attribute) :
      IsExpressionTree (mk "constant" children attributes)
  | name (children : List (String × Node)) (attributes : OrderedMap Attribute) :
      IsExpressionTree (mk "name" children attributes)
  | hash {children : List (String × Node)} (attributes : OrderedMap Attribute)
      (each : ∀ entry ∈ children, IsExpressionTree entry.2) :
      IsExpressionTree (mk "hash" children attributes)

theorem IsExpressionTree.withChild {node child : Node} (h : node.IsExpressionTree)
    (hc : child.IsExpressionTree) (name : String) : (node.withChild name child).IsExpressionTree := by
  cases h with
  | constant children attributes => exact .constant _ _
  | name children attributes => exact .name _ _
  | hash attributes each =>
    refine .hash _ fun entry mem => ?_
    rcases OrderedMap.mem_of_mem_insert mem with rfl | old
    · exact hc
    · exact each entry old

/-- Whether the node is a constant whose value is written with a sign. -/
def isSignedConstant (node : Node) : Bool :=
  node.type == "constant" && (node.attr? "value").any Attribute.isNegative

mutual

/-- Whether a mapping in a tree of mappings has a signed constant for a key. -/
def hasSignedKey : Node → Bool
  | mk type children _ =>
    type == "hash" &&
      ((mappingKeys children).any (fun key => key.2.isSignedConstant) || anySignedKey children)

def anySignedKey : List (String × Node) → Bool
  | [] => false
  | (_, child) :: rest => hasSignedKey child || anySignedKey rest

end

theorem anySignedKey_eq (children : List (String × Node)) :
    anySignedKey children = children.any fun entry => entry.2.hasSignedKey := by
  induction children with
  | nil => rfl
  | cons entry rest ih => rw [anySignedKey, ih, List.any_cons]

theorem hasSignedKey_of_key {children : List (String × Node)} {attributes : OrderedMap Attribute}
    {key : String × Node} (mem : key ∈ mappingKeys children) (h : key.2.isSignedConstant = true) :
    (mk "hash" children attributes).hasSignedKey = true := by
  have found : (mappingKeys children).any (fun key => key.2.isSignedConstant) = true :=
    List.any_eq_true.mpr ⟨key, mem, h⟩
  simp [hasSignedKey, found]

theorem hasSignedKey_of_child {children : List (String × Node)} {attributes : OrderedMap Attribute}
    {entry : String × Node} (mem : entry ∈ children) (h : entry.2.hasSignedKey = true) :
    (mk "hash" children attributes).hasSignedKey = true := by
  have found : anySignedKey children = true := by
    rw [anySignedKey_eq]
    exact List.any_eq_true.mpr ⟨entry, mem, h⟩
  simp [hasSignedKey, found]

def constantOf (value : Attribute) : Node := (leaf "constant").withAttr "value" value

/-- The mapping with one member. -/
def pairOf (key value : Node) : Node := ((leaf "hash").withChild "0" key).withChild "1" value

theorem isExpressionTree_pairOf {key value : Node} (hk : key.IsExpressionTree)
    (hv : value.IsExpressionTree) : (pairOf key value).IsExpressionTree :=
  IsExpressionTree.withChild (.withChild (.hash _ (by simp)) hk "0") hv "1"

end Node

namespace Registry

theorem literal_of_compile {key : Node} {segment : String} (constant : key.type = "constant")
    (compiled : standard.compile key = .ok segment) :
    Handler.literal (key.attr? "value") = .ok segment := by
  cases key with
  | mk type children attributes =>
    cases constant
    rw [compile_mk, show standard.get? "constant" = some .constant from rfl] at compiled
    exact mapError_eq_ok.mp ((Handler.segment_constant _ _ _).symm.trans compiled)

theorem isPair_pairText {key : Node} {signed : Bool} {k v : String}
    (allowed : key.isSignedConstant = true → signed = true)
    (compiled : standard.compile key = .ok k) (hk : IsExpression signed k)
    (hv : IsExpression signed v) : IsPair signed (pairText key.type k v) := by
  unfold pairText
  by_cases constant : key.type = "constant"
  · rw [if_pos constant]
    refine .mk (isKey_literal (literal_of_compile constant compiled) fun negative => ?_) hv
    exact allowed (by simp [Node.isSignedConstant, constant, negative])
  · rw [if_neg constant]
    have split : "[" ++ k ++ "]: " ++ v = "[" ++ k ++ "]" ++ ": " ++ v := by
      simp only [String.append_assoc]
      rfl
    rw [split]
    exact .mk (.computed hk) hv

/-- Signs are allowed, or there are none before the name of a member. -/
theorem isExpression_of_compile {signed : Bool} {root : Node} (tree : root.IsExpressionTree)
    (allowed : root.hasSignedKey = true → signed = true) {segment : String}
    (compiled : standard.compile root = .ok segment) : IsExpression signed segment := by
  induction tree generalizing segment with
  | constant children attributes => exact isExpression_literal (literal_of_compile rfl compiled)
  | name children attributes =>
    rw [compile_mk, show standard.get? "name" = some .name from rfl] at compiled
    have text := (Handler.segment_name _ _ _).symm.trans compiled
    split at text
    · cases text
      exact .variable (isStringLiteral_quote _)
    · cases text
  | @hash children attributes each ih =>
    rw [compile_mk, show standard.get? "hash" = some .hash from rfl] at compiled
    have text := (Handler.segment_hash _ _ _).symm.trans compiled
    split at text
    · obtain ⟨segments, all, rfl⟩ := map_eq_ok.mp text
      refine .mapping fun pair mem => ?_
      obtain ⟨key, hkey, value, hvalue, k, v, hk, hv, rfl⟩ := exists_of_pairTexts all mem
      have below : ∀ entry ∈ children, entry.2.hasSignedKey = true → signed = true :=
        fun entry mem found => allowed (Node.hasSignedKey_of_child mem found)
      have keyed := mem_of_mem_mappingKeys hkey
      exact isPair_pairText (fun found => allowed (Node.hasSignedKey_of_key hkey found)) hk
        (ih key keyed (below key keyed) hk) (ih value hvalue (below value hvalue) hv)
    · cases text

/-- The segment of a tree of constants, variables and mappings is an expression, where at most the name
of a member may have a sign that the target language does not allow. If no key is a negative number,
the segment is an expression of the target language. -/
theorem segment_isExpression (root : Node) (tree : root.IsExpressionTree) (segment : String)
    (compiled : standard.compile root = .ok segment) :
    IsExpression true segment ∧ (root.hasSignedKey = false → IsExpression false segment) := by
  refine ⟨isExpression_of_compile tree (fun _ => rfl) compiled, fun unsigned => ?_⟩
  refine isExpression_of_compile tree (fun found => ?_) compiled
  rw [unsigned] at found
  cases found

theorem segment_isExpression_of_nested_mapping :
    let key := Node.pairOf (.constantOf (.float ⟨0x3ff8000000000000⟩)) (.constantOf .null)
    let root := Node.pairOf key (.pairOf (.constantOf (.bool true)) (.constantOf (.int (-1))))
    let segment := "\x7b[\x7b1.5: null\x7d]: \x7btrue: -1\x7d\x7d"
    root.IsExpressionTree ∧ root.hasSignedKey = false ∧ standard.compile root = .ok segment ∧
      IsExpression false segment := by
  intro key root segment
  have keyed : key.IsExpressionTree := Node.isExpressionTree_pairOf (.constant _ _) (.constant _ _)
  have tree : root.IsExpressionTree :=
    Node.isExpressionTree_pairOf keyed (Node.isExpressionTree_pairOf (.constant _ _) (.constant _ _))
  have compiled : standard.compile root = .ok segment := by
    unfold root key segment
    rfl
  exact ⟨tree, rfl, compiled, (segment_isExpression root tree segment compiled).2 rfl⟩

end Registry

/-! ## Signed names -/

theorem head?_of_isStringLiteral {text : String} (h : IsStringLiteral text) :
    text.toList.head? = some '"' := by
  obtain ⟨value, read⟩ := h
  unfold Text.unquote? at read
  split at read
  · rename_i rest chars
    rw [chars]
    rfl
  · cases read

theorem head?_of_isDecimal {text : String} (h : IsDecimal text) :
    ∃ c, text.toList.head? = some c ∧ c.isDigit := by
  obtain ⟨whole, fraction, written, digits, -⟩ := h
  obtain ⟨c, rest, chars⟩ := List.exists_cons_of_ne_nil digits.filled
  refine ⟨c, by simp [written, numeralChars, chars], digits.all c (by simp [chars])⟩

theorem head?_of_isSigned {negative : Bool} {text : String} (h : IsSigned negative text) :
    ∃ c, text.toList.head? = some c ∧ if negative then c = '-' else c.isDigit := by
  obtain ⟨decimal, hd, rfl⟩ := h
  cases negative
  · exact head?_of_isDecimal hd
  · exact ⟨'-', by simp, rfl⟩

theorem head?_of_mem_wordLiterals {text : String} (h : text ∈ wordLiterals) :
    ∃ c ∈ ['t', 'f', 'n'], text.toList.head? = some c := by
  simp only [wordLiterals, List.mem_cons, List.not_mem_nil, or_false] at h
  obtain rfl | rfl | rfl := h
  · exact ⟨'t', by decide, rfl⟩
  · exact ⟨'f', by decide, rfl⟩
  · exact ⟨'n', by decide, rfl⟩

/-- Where signs are not allowed, the name of a member does not start with one. -/
theorem head?_of_isKey {key : String} (h : IsKey false key) :
    ∃ c, key.toList.head? = some c ∧ c ≠ '-' := by
  cases h with
  | string h => exact ⟨'"', head?_of_isStringLiteral h, by decide⟩
  | number negative allowed h =>
    cases negative with
    | true => cases allowed rfl
    | false =>
      obtain ⟨c, head, digit⟩ := head?_of_isSigned h
      refine ⟨c, head, ?_⟩
      rintro rfl
      cases digit
  | word h =>
    obtain ⟨c, mem, head⟩ := head?_of_mem_wordLiterals h
    refine ⟨c, head, ?_⟩
    rintro rfl
    exact absurd mem (by decide)
  | computed h => exact ⟨'[', by simp, by decide⟩

theorem head?_intercalate {first : String} {c : Char} (h : first.toList.head? = some c)
    (separator : String) (more : List String) :
    (separator.intercalate (first :: more)).toList.head? = some c := by
  cases more with
  | nil => simpa using h
  | cons next more =>
    rw [String.intercalate_cons_cons]
    simp [h]

/-- A mapping whose first name has a sign is no expression of the target language. -/
theorem not_isExpression_of_sign (rest : String) : ¬ IsExpression false ("\x7b-" ++ rest) := by
  intro h
  generalize whole : "\x7b-" ++ rest = text at h
  have chars : text.toList = '\x7b' :: '-' :: rest.toList := by
    rw [← whole]
    simp
  have head : text.toList.head? = some '\x7b' := by rw [chars]; rfl
  cases h with
  | string h =>
    rw [head?_of_isStringLiteral h] at head
    cases head
  | number negative h =>
    obtain ⟨c, first, sign⟩ := head?_of_isSigned h
    rw [head] at first
    cases first
    cases negative <;> simp at sign
  | word h =>
    obtain ⟨c, mem, first⟩ := head?_of_mem_wordLiterals h
    rw [head] at first
    cases first
    exact absurd mem (by decide)
  | «variable» h => simp at head
  | @mapping pairs each =>
    cases pairs with
    | nil => simp at chars
    | cons pair more =>
      cases each pair (List.mem_cons_self ..) with
      | @mk key value hk hv =>
        obtain ⟨c, first, unsigned⟩ := head?_of_isKey hk
        have member : (key ++ ": " ++ value).toList.head? = some c := by simp [first]
        have inside := head?_intercalate member ", " more
        rw [String.toList_append, String.toList_append] at chars
        have names : (String.intercalate ", " ((key ++ ": " ++ value) :: more)).toList ++
            "\x7d".toList = '-' :: rest.toList := (List.cons.inj chars).2
        have tail := congrArg List.head? names
        rw [List.head?_append, inside] at tail
        exact unsigned (Option.some.inj tail)

namespace Registry

theorem signed_key_is_no_expression :
    let root := Node.pairOf (.constantOf (.int (-1))) (.constantOf (.int 2))
    root.IsExpressionTree ∧ standard.compile root = .ok "\x7b-1: 2\x7d" ∧
      ¬ IsExpression false "\x7b-1: 2\x7d" :=
  ⟨Node.isExpressionTree_pairOf (.constant _ _) (.constant _ _), rfl,
    not_isExpression_of_sign "1: 2\x7d"⟩

end Registry

end Stencil
