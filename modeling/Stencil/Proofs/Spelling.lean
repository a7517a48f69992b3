import Stencil.Proofs.Numeral
import Stencil.Proofs.Quoted
import Stencil.Proofs.Segment

/-! What the segments of standard handlers are spelled with.

* `Text.Additive P`: texts without control characters have the property, and what is put together from
  texts that have it has it too.
* `Handler.additive_of_segment`: such a property passes from the children to the node. Only a body
  puts something else, a line feed, between its children.
* `Handler.filled_of_segment`: only a body can come out empty. -/

namespace Stencil
set_option autoImplicit false

open Outcome Text

/-- The literal of a constant's value is a string, a word or a number. -/
theorem Handler.literal_forms {value : Option Attribute} {source : String}
    (h : literal value = .ok source) :
    (∃ text, source = quote text) ∨ source ∈ ["null", "true", "false"] ∨ IsNumeral source := by
  match value with
  | none => cases h; exact .inr (.inl (by decide))
  | some .null => cases h; exact .inr (.inl (by decide))
  | some (.bool b) => cases h; cases b <;> exact .inr (.inl (by decide))
  | some (.int n) =>
    rw [literal] at h
    split at h
    · cases h; exact .inr (.inr (isNumeral_int n.toInt))
    · cases h
  | some (.float x) =>
    rw [literal] at h
    split at h
    · rename_i finite
      cases h; exact .inr (.inr (isNumeral_plain finite))
    · cases h
  | some (.text s) => cases h; exact .inl ⟨s, rfl⟩

/-! ## Properties of texts -/

/-- Texts without control characters have the property, and putting texts together keeps it. -/
structure Text.Additive (P : List Char → Prop) : Prop where
  printable : ∀ {cs : List Char}, (∀ c ∈ cs, 0x20 ≤ c.toNat) → P cs
  append : ∀ {xs ys : List Char}, P xs → P ys → P (xs ++ ys)

namespace Text.Additive

variable {P : List Char → Prop} (additive : Additive P)

include additive

theorem of_all {cs : List Char} (h : cs.all fun c => 0x20 ≤ c.toNat) : P cs :=
  additive.printable fun c mem => of_decide_eq_true (List.all_eq_true.mp h c mem)

theorem append_text {first second : String} (hf : P first.toList) (hs : P second.toList) :
    P (first ++ second).toList := by
  rw [String.toList_append]
  exact additive.append hf hs

theorem intercalate {separator : String} {parts : List String} (between : P separator.toList)
    (each : ∀ part ∈ parts, P part.toList) : P (separator.intercalate parts).toList := by
  induction parts with
  | nil => exact additive.of_all (by simp)
  | cons part parts ih =>
    have here := each part (List.mem_cons_self ..)
    have others := ih fun other mem => each other (List.mem_cons_of_mem part mem)
    cases parts with
    | nil => simpa using here
    | cons next parts =>
      rw [String.intercalate_cons_cons]
      exact additive.append_text (additive.append_text here between) others

theorem quote (text : String) : P (Text.quote text).toList :=
  additive.printable (printable_quote text)

theorem numeral {text : String} (h : IsNumeral text) : P text.toList := by
  refine additive.printable fun c mem => ?_
  have digit := isNumeralChar_of_mem h c mem
  simp only [isNumeralChar, Char.isDigit, Bool.or_eq_true, Bool.and_eq_true, decide_eq_true_eq,
    beq_iff_eq] at digit
  obtain (⟨low, -⟩ | rfl) | rfl := digit
  · exact Nat.le_trans (by decide) low
  · decide
  · decide

theorem literal {value : Option Attribute} {source : String}
    (h : Handler.literal value = .ok source) : P source.toList := by
  rcases Handler.literal_forms h with ⟨text, rfl⟩ | word | digits
  · exact additive.quote text
  · simp only [List.mem_cons, List.not_mem_nil, or_false] at word
    obtain rfl | rfl | rfl := word <;> exact additive.of_all (by decide)
  · exact additive.numeral digits

theorem statement {text : String} (ht : P text.toList) : P ("html += " ++ text ++ ";").toList := by
  have start : P "html += ".toList := additive.of_all (by decide)
  have stop : P ";".toList := additive.of_all (by decide)
  exact additive.append_text (additive.append_text start ht) stop

theorem pairText {type key value : String} (hk : P key.toList) (hv : P value.toList) :
    P (Stencil.pairText type key value).toList := by
  unfold Stencil.pairText
  split
  · have colon : P ": ".toList := additive.of_all (by decide)
    exact additive.append_text (additive.append_text hk colon) hv
  · have bracket : P "[".toList := additive.of_all (by decide)
    have colon : P "]: ".toList := additive.of_all (by decide)
    have key := additive.append_text (additive.append_text bracket hk) colon
    exact additive.append_text key hv

theorem includeText (attributes : OrderedMap Attribute) {target : String} {data : Option String}
    (ht : P target.toList) (hd : ∀ text ∈ data, P text.toList) :
    P (Handler.includeText attributes target data).toList := by
  have start : P "html += render(".toList := additive.of_all (by decide)
  have comma : P ", ".toList := additive.of_all (by decide)
  have stop : P ");".toList := additive.of_all (by decide)
  have given : P (data.getD Handler.emptyMapping).toList := by
    cases data with
    | none => exact additive.of_all (by decide)
    | some text => exact hd text rfl
  have marker : P (Handler.contextMarker attributes).toList := by
    unfold Handler.contextMarker
    split <;> exact additive.of_all (by decide)
  have flag : P (Handler.missingFlag attributes).toList := by
    unfold Handler.missingFlag
    split <;> exact additive.of_all (by decide)
  have upToTarget := additive.append_text (additive.append_text start ht) comma
  have upToData := additive.append_text (additive.append_text upToTarget given) comma
  have upToMarker := additive.append_text (additive.append_text upToData marker) comma
  exact additive.append_text (additive.append_text upToMarker flag) stop

end Text.Additive

/-! ## Segments -/

namespace Handler

variable {handler : Handler} {type : String} {attributes : OrderedMap Attribute} {segment : String}

theorem additive_of_segment {P : List Char → Prop} (additive : Additive P) {registry : Registry}
    (standard : handler.IsStandard) (other : handler ≠ .body) {children : OrderedMap Node}
    (ih : ∀ entry ∈ children, ∀ text, registry.compile entry.2 = .ok text → P text.toList)
    (h : handler.segment type attributes (children.map registry.compiled) = .ok segment) :
    P segment.toList := by
  cases handler with
  | body => exact absurd rfl other
  | text =>
    rw [segment_text] at h
    split at h
    · cases h
      exact additive.statement (additive.quote _)
    · cases h
    · cases h
  | print =>
    rw [segment_print] at h
    obtain ⟨expr, required, rfl⟩ := map_eq_ok.mp h
    obtain ⟨child, mem, here⟩ := Registry.exists_of_require required
    exact additive.statement (ih _ mem expr here)
  | «include» =>
    rw [segment_include] at h
    obtain ⟨target, required, h⟩ := bind_eq_ok.mp h
    obtain ⟨data, looked, h⟩ := bind_eq_ok.mp h
    cases h
    obtain ⟨child, mem, here⟩ := Registry.exists_of_require required
    refine additive.includeText attributes (ih _ mem target here) ?_
    rintro text rfl
    obtain ⟨child, mem, here⟩ := Registry.exists_of_find? looked
    exact ih _ mem text here
  | constant =>
    rw [segment_constant] at h
    exact additive.literal (mapError_eq_ok.mp h)
  | name =>
    rw [segment_name] at h
    split at h
    · cases h
      have start : P "context[".toList := additive.of_all (by decide)
      have stop : P "]".toList := additive.of_all (by decide)
      exact additive.append_text (additive.append_text start (additive.quote _)) stop
    · cases h
  | hash =>
    rw [segment_hash] at h
    split at h
    · obtain ⟨segments, all, rfl⟩ := map_eq_ok.mp h
      have pairs : P (String.intercalate ", "
          (pairTexts (children.map registry.compiled) segments)).toList := by
        refine additive.intercalate (additive.of_all (by decide)) fun text mem => ?_
        obtain ⟨key, hkey, value, hvalue, k, v, hk, hv, rfl⟩ := Registry.exists_of_pairTexts all mem
        exact additive.pairText (ih key (mem_of_mem_mappingKeys hkey) k hk) (ih value hvalue v hv)
      have start : P "\x7b".toList := additive.of_all (by decide)
      have stop : P "\x7d".toList := additive.of_all (by decide)
      exact additive.append_text (additive.append_text start pairs) stop
    · cases h
  | custom recipes => exact standard.elim

theorem filled_append {first : String} (h : first.toList ≠ []) (second : String) :
    (first ++ second).toList ≠ [] := by
  rw [String.toList_append]
  exact List.append_ne_nil_of_left_ne_nil h _

theorem filled_of_literal {value : Option Attribute} {source : String}
    (h : literal value = .ok source) : source.toList ≠ [] := by
  rcases literal_forms h with ⟨text, rfl⟩ | word | digits
  · rw [toList_quote]
    exact List.cons_ne_nil _ _
  · simp only [List.mem_cons, List.not_mem_nil, or_false] at word
    obtain rfl | rfl | rfl := word <;> decide
  · exact toList_ne_nil_of_isNumeral digits

theorem filled_of_segment (standard : handler.IsStandard) (other : handler ≠ .body)
    {children : List Compiled} (h : handler.segment type attributes children = .ok segment) :
    segment.toList ≠ [] := by
  have statement (text : String) : ("html += " ++ text ++ ";").toList ≠ [] :=
    filled_append (filled_append (by decide) text) ";"
  cases handler with
  | body => exact absurd rfl other
  | text =>
    rw [segment_text] at h
    split at h
    · cases h
      exact statement _
    · cases h
    · cases h
  | print =>
    rw [segment_print] at h
    obtain ⟨expr, -, rfl⟩ := map_eq_ok.mp h
    exact statement expr
  | «include» =>
    rw [segment_include] at h
    obtain ⟨target, -, h⟩ := bind_eq_ok.mp h
    obtain ⟨data, -, h⟩ := bind_eq_ok.mp h
    cases h
    unfold includeText
    iterate 8 refine filled_append ?_ _
    decide
  | constant =>
    rw [segment_constant] at h
    exact filled_of_literal (mapError_eq_ok.mp h)
  | name =>
    rw [segment_name] at h
    split at h
    · cases h
      exact filled_append (filled_append (by decide) _) _
    · cases h
  | hash =>
    rw [segment_hash] at h
    split at h
    · obtain ⟨segments, -, rfl⟩ := map_eq_ok.mp h
      exact filled_append (filled_append (by decide) _) _
    · cases h
  | custom recipes => exact standard.elim

end Handler

end Stencil
