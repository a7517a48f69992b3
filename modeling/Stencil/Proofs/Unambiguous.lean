import Stencil.Proofs.Form
import Stencil.Proofs.Segment

/-! Generated code is unambiguous.

* `Node.form`: the form of a tree, which forgets how bodies are nested, what names children have and
  which kind of number a constant is.
* `toList_of_compile`: the segment of a tree that compiles is the text of its form.
* `segment_eq_iff_form_eq`: two trees compile to the same segment exactly if they have the same
  form. -/

namespace Stencil
set_option autoImplicit false

open Outcome

/-! ## The form of a tree -/

/-- The literal of a constant's value. A number is known by its text. -/
def Literal.ofValue : Option Attribute → Literal
  | none => .null
  | some .null => .null
  | some (.bool b) => .bool b
  | some (.int n) => .number ⟨toString n.toInt, isNumeral_int n.toInt⟩
  | some (.float x) => if finite : x.isFinite then .number ⟨x.plain, isNumeral_plain finite⟩ else .null
  | some (.text s) => .string s

/-- The pairs of children with their types and forms. Only a key of type `constant` is not computed. -/
def formPairs : List (String × String × Form) → List (KeyValue Form)
  | (_, type, key) :: (_, _, value) :: rest => ⟨type != "constant", key, value⟩ :: formPairs rest
  | _ => []

/-- The form of a node, given its children with their types and forms. Where the node does not compile,
the form means nothing. -/
def Handler.form (attributes : OrderedMap Attribute) (children : OrderedMap (String × Form)) :
    Handler → Form
  | .body => children.flatMap fun entry => entry.2.2
  | .text =>
    match attributes.get? "data" with
    | some (.text data) => [.print [.constant (.string data)]]
    | _ => []
  | .print => [.print ((children.get? "expr").elim [] Prod.snd)]
  | .include =>
    [.include ((children.get? "expr").elim [] Prod.snd) ((children.get? "variables").map Prod.snd)
      (flagSet "only" attributes) (flagSet "ignore_missing" attributes)]
  | .constant => [.constant (.ofValue (attributes.get? "value"))]
  | .name =>
    match attributes.get? "name" with
    | some (.text key) => [.name key]
    | _ => []
  | .hash => [.hash (formPairs children)]
  | .custom _ => []

mutual

def Node.form : Node → Form
  | .mk type children attributes =>
    match Registry.standard.get? type with
    | none => []
    | some handler => handler.form attributes (childForms children)

def Node.childForms : List (String × Node) → OrderedMap (String × Form)
  | [] => []
  | (name, child) :: rest => (name, child.type, child.form) :: Node.childForms rest

end

theorem childForms_eq_map (children : List (String × Node)) :
    Node.childForms children =
      children.map fun entry => (entry.1, entry.2.type, entry.2.form) := by
  induction children with
  | nil => rw [Node.childForms, List.map_nil]
  | cons entry rest ih => rw [Node.childForms, ih, List.map_cons]

theorem get?_childForms (name : String) (children : OrderedMap Node) :
    (Node.childForms children).get? name =
      (children.get? name).map fun child => (child.type, child.form) := by
  rw [childForms_eq_map]
  exact OrderedMap.get?_map (fun _ child => (child.type, child.form)) name children

/-! ## Texts of sequences -/

theorem linesChars_append (items others : Form) :
    linesChars (items ++ others) = linesChars items ++ linesChars others := by
  induction items with
  | nil => rfl
  | cons item items ih =>
    rw [List.cons_append, linesChars, linesChars, ih, List.cons_append, List.append_assoc]

theorem formChars_append {form other : Form} (hf : form ≠ []) (ho : other ≠ []) :
    formChars (form ++ other) = formChars form ++ '\n' :: formChars other := by
  obtain ⟨item, items, rfl⟩ := List.exists_cons_of_ne_nil hf
  obtain ⟨next, others, rfl⟩ := List.exists_cons_of_ne_nil ho
  rw [List.cons_append, formChars, formChars, formChars, linesChars_append, linesChars,
    List.append_assoc]

theorem formChars_singleton (item : Item) : formChars [item] = item.chars := by
  rw [formChars, linesChars, List.append_nil]

theorem formChars_eq_nil {form : Form} : formChars form = [] ↔ form = [] := by
  constructor
  · intro h
    have empty : formChars form ++ [] = [] := by rw [h, List.append_nil]
    exact form_eq_nil_of_closed closed_nil empty
  · rintro rfl
    rfl

/-- Lines of forms, without the empty ones, are the text of the forms put together. -/
theorem intercalate_forms (forms : List Form) :
    ['\n'].intercalate ((forms.map formChars).filter (!·.isEmpty)) = formChars forms.flatten := by
  induction forms with
  | nil => rfl
  | cons form forms ih =>
    rw [List.map_cons, List.flatten_cons]
    by_cases hf : form = []
    · subst hf
      rw [List.nil_append, ← ih]
      rfl
    have kept : (!(formChars form).isEmpty) = true := by
      rw [Bool.not_eq_true', List.isEmpty_eq_false_iff, ne_eq, formChars_eq_nil]
      exact hf
    rw [List.filter_cons, if_pos kept]
    by_cases ho : forms.flatten = []
    · have none : (forms.map formChars).filter (!·.isEmpty) = [] := by
        rw [List.filter_eq_nil_iff]
        intro chars h
        obtain ⟨other, mem, rfl⟩ := List.mem_map.mp h
        rw [List.flatten_eq_nil_iff.mp ho other mem]
        decide
      rw [none, List.intercalate_singleton, ho, List.append_nil]
    · rw [formChars_append hf ho, ← ih, List.intercalate_cons_of_ne_nil, List.append_assoc]
      · rfl
      · intro none
        rw [none, List.intercalate_nil] at ih
        exact ho (formChars_eq_nil.mp ih.symm)

theorem intercalate_pairs (pairs : List (KeyValue Form)) :
    ", ".toList.intercalate (pairs.map pairChars) = pairsChars pairs := by
  have more : ∀ (pair : KeyValue Form) (rest : List (KeyValue Form)),
      ", ".toList.intercalate ((pair :: rest).map pairChars) = pairChars pair ++ morePairsChars rest := by
    intro pair rest
    induction rest generalizing pair with
    | nil => rw [List.map_singleton, List.intercalate_singleton, morePairsChars, List.append_nil]
    | cons next rest ih =>
      rw [List.map_cons, List.map_cons, List.intercalate_cons_cons, ← List.map_cons, ih,
        morePairsChars, List.append_assoc]
  cases pairs with
  | nil => rfl
  | cons pair rest => exact more pair rest

/-! ## Segments are texts of forms -/

theorem chars_of_literal {value : Option Attribute} {source : String}
    (h : Handler.literal value = .ok source) : source.toList = (Literal.ofValue value).chars := by
  match value with
  | none => cases h; rfl
  | some .null => cases h; rfl
  | some (.bool b) => cases h; cases b <;> rfl
  | some (.int n) =>
    rw [Handler.literal] at h
    split at h
    · cases h; rfl
    · cases h
  | some (.float x) =>
    rw [Handler.literal] at h
    split at h
    · rename_i finite
      cases h
      rw [Literal.ofValue, dif_pos finite]
      rfl
    · cases h
  | some (.text s) =>
    cases h
    exact String.toList_ofList

/-- The children whose segments are texts of their forms. -/
def Faithful (children : List (String × Node)) : Prop :=
  ∀ entry ∈ children, ∀ segment, Registry.standard.compile entry.2 = .ok segment →
    segment.toList = formChars entry.2.form

theorem segments_of_children {children : List (String × Node)} (ih : Faithful children)
    {segments : List String}
    (h : (children.map Registry.standard.compiled).mapM Compiled.segment = .ok segments) :
    segments.map String.toList = children.map fun entry => formChars entry.2.form := by
  rw [List.mapM_map] at h
  refine map_of_mapM (fun entry mem segment ok => ?_) h
  exact ih entry mem segment (mapError_eq_ok.mp ok)

theorem chars_of_find {children : OrderedMap Node} (ih : Faithful children) {name : String}
    {found : Option String}
    (h : Compiled.find? name (children.map Registry.standard.compiled) = .ok found) :
    found.map String.toList = (children.get? name).map fun child => formChars child.form := by
  rw [Registry.find?_compiled] at h
  cases hc : children.get? name with
  | none =>
    rw [hc] at h
    cases h
    rfl
  | some child =>
    rw [hc] at h
    obtain ⟨segment, ok, rfl⟩ := map_eq_ok.mp h
    exact congrArg some (ih _ (OrderedMap.mem_of_get? hc) segment (mapError_eq_ok.mp ok))

theorem chars_of_require {children : OrderedMap Node} (ih : Faithful children) {type name : String}
    {segment : String}
    (h : Compiled.require type name (children.map Registry.standard.compiled) = .ok segment) :
    ∃ child, children.get? name = some child ∧ segment.toList = formChars child.form := by
  obtain ⟨found, hf, hs⟩ := bind_eq_ok.mp h
  have chars := chars_of_find ih hf
  cases found with
  | none => cases hs
  | some text =>
    cases hs
    obtain ⟨child, hc, same⟩ := Option.map_eq_some_iff.mp chars.symm
    exact ⟨child, hc, same.symm⟩

theorem chars_of_pair (type key value : String) (form other : Form)
    (hk : key.toList = formChars form) (hv : value.toList = formChars other) :
    (pairText type key value).toList = pairChars ⟨type != "constant", form, other⟩ := by
  unfold pairText
  by_cases h : type = "constant"
  · subst h
    rw [if_pos rfl, String.toList_append, String.toList_append, hk, hv, List.append_assoc]
    rfl
  · have computed : (type != "constant") = true := bne_iff_ne.mpr h
    rw [if_neg h, computed, String.toList_append, String.toList_append, String.toList_append, hk, hv,
      List.append_assoc, List.append_assoc]
    rfl

theorem chars_of_pairs : ∀ (children : List (String × Node)) (segments : List String),
    segments.map String.toList = (children.map fun entry => formChars entry.2.form) →
    (pairTexts (children.map Registry.standard.compiled) segments).map String.toList =
      (formPairs (Node.childForms children)).map pairChars
  | [], [], _ => rfl
  | [_], [_], _ => rfl
  | [_], _ :: _ :: _, h => by simp at h
  | _ :: _ :: _, [_], h => by simp at h
  | (_, key) :: (_, value) :: rest, k :: v :: segments, h => by
    simp only [List.map_cons, List.cons.injEq] at h
    obtain ⟨hk, hv, tail⟩ := h
    rw [List.map_cons, List.map_cons, pairTexts, List.map_cons, Node.childForms, Node.childForms,
      formPairs, List.map_cons, chars_of_pairs rest segments tail]
    exact congrArg (· :: _) (chars_of_pair key.type k v key.form value.form hk hv)

theorem chars_of_body {segments : List String} {forms : List Form}
    (h : segments.map String.toList = forms.map formChars) :
    (Text.joinLines (segments.filter (!·.isEmpty))).toList = formChars forms.flatten := by
  have filtered : (segments.filter (!·.isEmpty)).map String.toList =
      (segments.map String.toList).filter (!·.isEmpty) := by
    rw [List.filter_map]
    refine congrArg (List.map String.toList) (List.filter_congr fun segment _ => ?_)
    rw [Function.comp, Bool.eq_iff_iff]
    simp
  rw [Text.joinLines, String.toList_intercalate, filtered, h]
  exact intercalate_forms forms

theorem chars_of_include (attributes : OrderedMap Attribute) {target : String} {data : Option String}
    {form : Form} {other : Option Form} (ht : target.toList = formChars form)
    (hd : data.map String.toList = other.map formChars) :
    (Handler.includeText attributes target data).toList =
      (Item.include form other (Handler.flagSet "only" attributes)
        (Handler.flagSet "ignore_missing" attributes)).chars := by
  have given : (data.getD Handler.emptyMapping).toList = dataChars other := by
    match data, other with
    | none, none => rfl
    | some data, some other => exact Option.some.inj hd
  have flags : (Handler.contextMarker attributes ++ ", " ++ Handler.missingFlag attributes ++
      ");").toList = flagChars (Handler.flagSet "only" attributes)
        (Handler.flagSet "ignore_missing" attributes) := by
    unfold Handler.contextMarker Handler.missingFlag flagChars
    cases Handler.flagSet "only" attributes <;> cases Handler.flagSet "ignore_missing" attributes <;>
      simp [Handler.isolatedMarker, Handler.inheritedMarker]
  have start : "html += render(" = "html += " ++ "render(" := by decide
  rw [chars_include, ← given, ← flags, ← ht]
  unfold Handler.includeText
  rw [start]
  simp only [String.toList_append, List.append_assoc]

/-- The segment of a node is the text of its form, if this is so for its children. -/
theorem chars_of_segment {handler : Handler} (standard : handler.IsStandard) {type : String}
    {children : OrderedMap Node} {attributes : OrderedMap Attribute} (ih : Faithful children)
    {segment : String}
    (h : handler.segment type attributes (children.map Registry.standard.compiled) = .ok segment) :
    segment.toList = formChars (handler.form attributes (Node.childForms children)) := by
  cases handler with
  | body =>
    rw [Handler.segment_body] at h
    obtain ⟨segments, hs, rfl⟩ := map_eq_ok.mp h
    have texts := segments_of_children ih hs
    rw [Handler.form, childForms_eq_map, List.flatMap_map, List.flatMap_def]
    refine chars_of_body (texts.trans ?_)
    rw [List.map_map]
    rfl
  | text =>
    rw [Handler.segment_text] at h
    rw [Handler.form]
    cases hd : attributes.get? "data" with
    | none => rw [hd] at h; cases h
    | some value =>
      rw [hd] at h
      cases value with
      | text data =>
        cases h
        simp [formChars_singleton, chars_print, chars_constant, Literal.chars, Text.quote]
      | _ => cases h
  | print =>
    rw [Handler.segment_print] at h
    obtain ⟨expr, he, rfl⟩ := map_eq_ok.mp h
    obtain ⟨child, hc, text⟩ := chars_of_require ih he
    rw [Handler.form, get?_childForms, hc, formChars_singleton, chars_print]
    simp [text]
  | «include» =>
    rw [Handler.segment_include] at h
    obtain ⟨target, ht, h⟩ := bind_eq_ok.mp h
    obtain ⟨data, hd, h⟩ := bind_eq_ok.mp h
    obtain ⟨child, hc, text⟩ := chars_of_require ih ht
    have given := chars_of_find ih hd
    cases h
    rw [Handler.form, get?_childForms, get?_childForms, hc, formChars_singleton]
    refine chars_of_include attributes text ?_
    rw [given, Option.map_map, Option.map_map]
    rfl
  | constant =>
    rw [Handler.segment_constant] at h
    rw [Handler.form, chars_of_literal (mapError_eq_ok.mp h), formChars_singleton, chars_constant]
  | name =>
    rw [Handler.segment_name] at h
    rw [Handler.form]
    cases hk : attributes.get? "name" with
    | none => rw [hk] at h; cases h
    | some value =>
      rw [hk] at h
      cases value with
      | text key =>
        cases h
        simp [formChars_singleton, chars_name, Text.quote]
      | _ => cases h
  | hash =>
    rw [Handler.segment_hash] at h
    split at h
    · obtain ⟨segments, hs, rfl⟩ := map_eq_ok.mp h
      have texts := chars_of_pairs children segments (segments_of_children ih hs)
      rw [Handler.form, formChars_singleton, chars_hash, ← intercalate_pairs, ← texts,
        ← String.toList_intercalate]
      simp
    · cases h
  | custom recipes => exact standard.elim

theorem toList_of_compile (node : Node) : ∀ segment,
    Registry.standard.compile node = .ok segment → segment.toList = formChars node.form := by
  induction node using Node.induction with
  | step type children attributes ih =>
    intro segment h
    obtain ⟨handler, found, h⟩ := Registry.compile_eq_ok.mp h
    rw [Node.form, found]
    exact chars_of_segment (Registry.onlyStandard_standard type handler found) ih h

/-! ## Unambiguity -/

/-- Two trees that compile have the same segment exactly if they have the same form. So no attribute,
however chosen, can imitate or change the structure around it. -/
theorem segment_eq_iff_form_eq {first second : Node} {segment other : String}
    (hf : Registry.standard.compile first = .ok segment)
    (hs : Registry.standard.compile second = .ok other) :
    segment = other ↔ first.form = second.form := by
  have left := toList_of_compile first segment hf
  have right := toList_of_compile second other hs
  constructor
  · rintro rfl
    exact formChars_inj (left.symm.trans right)
  · intro same
    rw [← String.toList_inj, left, right, same]

/-- A text that spells out the end of its own statement and the start of a second one is still a single
statement. -/
theorem segment_of_forged_statement :
    let forged := Node.mk "text" [] [("data", .text "a\";\nhtml += \"b")]
    let genuine := Node.mk "body" [("0", .mk "text" [] [("data", .text "a")]),
      ("1", .mk "text" [] [("data", .text "b")])] []
    Registry.standard.compile forged = .ok "html += \"a\\\";\\nhtml += \\\"b\";" ∧
    Registry.standard.compile genuine = .ok "html += \"a\";\nhtml += \"b\";" ∧
    ("html += \"a\\\";\\nhtml += \\\"b\";" = "html += \"a\";\nhtml += \"b\";" ↔
      forged.form = genuine.form) := by
  refine ⟨by rfl, by rfl, segment_eq_iff_form_eq (by rfl) (by rfl)⟩

end Stencil
