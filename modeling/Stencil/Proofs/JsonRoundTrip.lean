import Stencil.Proofs.JsonScalar
import Stencil.Proofs.Position
import Stencil.Proofs.Tree

/-! Trees are read back from their JSON text.

* `Node.floats`: the floating-point numbers in a tree.
* `Node.nesting`: how deeply the objects of a tree's JSON text are nested.
* `Node.memberChars`: the members of an object, as the loops of the reader meet them.
* `Node.readNode_jsonChars`: a node at the front of a text is read, and what follows is left.
* `Node.ofJsonText_jsonText`: the JSON text of a tree reads as the tree, unless it is nested too
  deeply. -/

namespace Stencil
set_option autoImplicit false

theorem OrderedMap.insert_of_new {α : Type} {name : String} {map : OrderedMap α}
    (new : name ∉ map.names) (value : α) : map.insert name value = map ++ [(name, value)] := by
  induction map with
  | nil => rfl
  | cons entry rest ih =>
    obtain ⟨key, old⟩ := entry
    simp only [names, List.map_cons, List.mem_cons, not_or] at new
    rw [insert, if_neg (Ne.symm new.1), ih new.2, List.cons_append]

instance {α : Type} (map : OrderedMap α) : Decidable map.Distinct :=
  inferInstanceAs (Decidable map.names.Nodup)

namespace Node

/-! ## Numbers and depth of a tree -/

def attributeFloats (attributes : OrderedMap Attribute) : List Binary64 :=
  attributes.filterMap fun entry =>
    match entry.2 with
    | .float x => some x
    | _ => none

mutual

/-- The floating-point numbers among the attributes of a tree. -/
def floats : Node → List Binary64
  | mk _ children attributes => attributeFloats attributes ++ childFloats children

def childFloats : List (String × Node) → List Binary64
  | [] => []
  | (_, child) :: rest => floats child ++ childFloats rest

end

def attributeNesting (attributes : OrderedMap Attribute) : Nat := if attributes.isEmpty then 0 else 1

mutual

/-- How deeply objects are nested in the JSON text of a tree. A map that is left out does not count. -/
def nesting : Node → Nat
  | mk _ children attributes => 1 + max (childNesting children) (attributeNesting attributes)

def childNesting : List (String × Node) → Nat
  | [] => 0
  | (_, child) :: rest => max (1 + nesting child) (childNesting rest)

end

theorem nesting_pos (node : Node) : 0 < node.nesting := by
  cases node
  rw [nesting]
  omega

/-! ## Members -/

def lead (first : Bool) : List Char := if first then [] else [',']

/-- The members of an object from some member on, which is the first one or not. -/
def memberChars {α : Type} (chars : α → List Char) : Bool → List (String × α) → List Char
  | _, [] => []
  | first, (name, value) :: rest =>
    lead first ++ (Text.quoteChars name.toList ++ ':' :: (chars value ++ memberChars chars false rest))

def valueChars (value : Attribute) : List Char := value.toJson.text.toList

theorem attributeChars_eq (attributes : OrderedMap Attribute) :
    attributeChars attributes = memberChars valueChars true attributes := by
  induction attributes with
  | nil => rfl
  | cons entry rest ih =>
    cases rest with
    | nil => simp [attributeChars, memberChars, lead, valueChars]
    | cons next more =>
      rw [attributeChars, ih]
      · simp [memberChars, lead, valueChars]
      · simp

theorem childChars_eq (children : List (String × Node)) :
    childChars children = memberChars jsonChars true children := by
  induction children with
  | nil => rfl
  | cons entry rest ih =>
    cases rest with
    | nil => simp [childChars, memberChars, lead]
    | cons next more =>
      rw [childChars, ih]
      · simp [memberChars, lead]
      · simp

/-- A map among the fields of a node. It is left out if it is empty. -/
def mapChars {α : Type} (name : String) (chars : α → List Char) (map : List (String × α)) : List Char :=
  if map.isEmpty then []
  else lead false ++ (Text.quoteChars name.toList ++
    ':' :: '\x7b' :: (memberChars chars true map ++ ['\x7d']))

theorem mapChars_of_ne_nil {α : Type} {map : List (String × α)} (filled : map ≠ []) (name : String)
    (chars : α → List Char) (rest : List Char) :
    mapChars name chars map ++ rest =
      lead false ++ (Text.quoteChars name.toList ++
        ':' :: '\x7b' :: (memberChars chars true map ++ '\x7d' :: rest)) := by
  simp [mapChars, filled]

theorem jsonChars_mk (type : String) (children : List (String × Node))
    (attributes : OrderedMap Attribute) :
    jsonChars (mk type children attributes) =
      '\x7b' :: (lead true ++ (Text.quoteChars "type".toList ++ ':' :: (Text.quoteChars type.toList ++
        (mapChars "children" jsonChars children ++
          (mapChars "attributes" valueChars attributes ++ ['\x7d']))))) := by
  have typed : "\x7b\"type\":".toList = '\x7b' :: (Text.quoteChars "type".toList ++ [':']) := by decide
  have nested : ",\"children\":\x7b".toList =
      lead false ++ (Text.quoteChars "children".toList ++ [':', '\x7b']) := by decide
  have valued : ",\"attributes\":\x7b".toList =
      lead false ++ (Text.quoteChars "attributes".toList ++ [':', '\x7b']) := by decide
  have none : lead true = [] := rfl
  rw [jsonChars.eq_def]
  dsimp only
  -- the names of the fields are written as any other name is
  rw [childChars_eq, attributeChars_eq, typed, nested, valued, none]
  simp only [mapChars, List.append_assoc, List.cons_append, List.nil_append]

theorem stops_memberChars {α : Type} (chars : α → List Char) (members : List (String × α))
    (rest : List Char) : Json.Stops (memberChars chars false members ++ '\x7d' :: rest) := by
  intro c head
  cases members with
  | nil =>
    cases head
    decide
  | cons entry more =>
    cases head
    decide

theorem nextMember_end (first : Bool) (rest : List Char) :
    nextMember first ('\x7d' :: rest) = .ok (.inl rest) := rfl

theorem nextMember_name (first : Bool) (name rest : List Char) :
    nextMember first (lead first ++ (Text.quoteChars name ++ rest)) =
      .ok (.inr (Text.quoteChars name ++ rest)) := by
  cases first <;> rfl

theorem memberName?_quoteChars (name : String) (rest : List Char) :
    Json.memberName? (Text.quoteChars name.toList ++ ':' :: rest) = some (name, rest) := by
  rw [Json.memberName?, Text.unquote?_quoteChars]
  simp [Json.skipBlanks_of_not_blank (show Json.isBlank ':' = false by decide)]

theorem insert_of_distinct {α : Type} {entries rest : OrderedMap α} {name : String} {value : α}
    (distinct : OrderedMap.Distinct (entries ++ (name, value) :: rest)) :
    entries.insert name value = entries ++ [(name, value)] := by
  apply OrderedMap.insert_of_new
  intro old
  simp only [OrderedMap.Distinct, OrderedMap.names, List.map_append, List.map_cons] at distinct old
  exact (List.nodup_append.mp distinct).2.2 name old name (List.mem_cons_self ..) rfl

/-! ## Attributes -/

theorem readAttributeMembers_cons {value : Attribute} (name : String)
    (back : ∀ x, value = .float x → x.isFinite ∧ Json.ReadsBack x) {rest : List Char}
    (stops : Json.Stops rest) (fuel depth : Nat) (first : Bool) (entries : OrderedMap Attribute) :
    readAttributeMembers (fuel + 1) depth first entries
        (lead first ++ (Text.quoteChars name.toList ++ ':' :: (valueChars value ++ rest))) =
      readAttributeMembers fuel depth false (entries.insert name value) rest := by
  rw [readAttributeMembers, nextMember_name]
  simp only [bind, Except.bind, memberName?_quoteChars, orMalformed, valueChars,
    Json.read?_toJson back stops, attributeOfJson_toJson]

theorem readAttributeMembers_memberChars {attributes : OrderedMap Attribute}
    (back : ∀ x ∈ attributeFloats attributes, x.isFinite ∧ Json.ReadsBack x) {fuel : Nat}
    (depth : Nat) {first : Bool} {entries : OrderedMap Attribute} (rest : List Char)
    (distinct : OrderedMap.Distinct (entries ++ attributes))
    (enough : (memberChars valueChars first attributes).length < fuel) :
    readAttributeMembers fuel depth first entries
        (memberChars valueChars first attributes ++ '\x7d' :: rest) =
      .ok (entries ++ attributes, rest) := by
  induction attributes generalizing fuel first entries with
  | nil =>
    cases fuel with
    | zero => cases enough
    | succ fuel =>
      rw [memberChars, List.nil_append, readAttributeMembers, nextMember_end, List.append_nil]
      rfl
  | cons entry attributes ih =>
    obtain ⟨name, value⟩ := entry
    cases fuel with
    | zero => cases enough
    | succ fuel =>
      have here : ∀ x, value = .float x → x.isFinite ∧ Json.ReadsBack x := by
        rintro x rfl
        exact back x (by simp [attributeFloats])
      have later : ∀ x ∈ attributeFloats attributes, x.isFinite ∧ Json.ReadsBack x :=
        fun x mem => back x (((List.sublist_cons_self _ _).filterMap _).subset mem)
      rw [memberChars] at enough ⊢
      simp only [List.append_assoc, List.cons_append, List.length_append, List.length_cons] at enough ⊢
      rw [readAttributeMembers_cons name here (stops_memberChars _ _ _), insert_of_distinct distinct,
        ih later]
      · simp
      · simpa using distinct
      · omega

theorem readAttributes_open (depth : Nat) (cs : List Char) :
    readAttributes depth ('\x7b' :: cs) =
      if depth ≤ 1 then .error .malformed
      else readAttributeMembers (cs.length + 1) (depth - 1) true [] cs := rfl

theorem readAttributes_memberChars {attributes : OrderedMap Attribute}
    (back : ∀ x ∈ attributeFloats attributes, x.isFinite ∧ Json.ReadsBack x)
    (distinct : attributes.Distinct) (depth : Nat) (rest : List Char) :
    readAttributes depth ('\x7b' :: (memberChars valueChars true attributes ++ '\x7d' :: rest)) =
      if 1 < depth then .ok (attributes, rest) else .error .malformed := by
  rw [readAttributes_open]
  by_cases deep : 1 < depth
  · rw [if_pos deep, if_neg (by omega)]
    refine readAttributeMembers_memberChars back _ rest distinct ?_
    rw [List.length_append]
    omega
  · rw [if_neg deep, if_pos (by omega)]

/-! ## Children -/

/-- The node is read from its text, whatever follows. Each call takes a character, so there are calls
enough for all of it. -/
def IsRead (node : Node) : Prop :=
  ∀ (fuel depth : Nat) (rest : List Char), (jsonChars node).length ≤ fuel →
    readNode fuel depth (jsonChars node ++ rest) =
      if node.nesting < depth then .ok (node, rest) else .error .malformed

theorem readChildMembers_cons (name : String) (fuel depth : Nat) (first : Bool)
    (entries : List (String × Node)) (rest : List Char) :
    readChildMembers (fuel + 1) depth first entries
        (lead first ++ (Text.quoteChars name.toList ++ ':' :: rest)) =
      (readNode fuel depth rest).bind fun read =>
        readChildMembers fuel depth false (OrderedMap.insert name read.1 entries) read.2 := by
  rw [readChildMembers, nextMember_name]
  simp only [bind, Except.bind, memberName?_quoteChars, orMalformed]

theorem readChildMembers_memberChars {children : List (String × Node)}
    (each : ∀ entry ∈ children, entry.2.IsRead) {fuel : Nat} (depth : Nat) {first : Bool}
    {entries : List (String × Node)} (rest : List Char)
    (distinct : OrderedMap.Distinct (entries ++ children))
    (enough : (memberChars jsonChars first children).length < fuel) :
    readChildMembers fuel depth first entries
        (memberChars jsonChars first children ++ '\x7d' :: rest) =
      if childNesting children ≤ depth then .ok (entries ++ children, rest)
      else .error .malformed := by
  induction children generalizing fuel first entries with
  | nil =>
    cases fuel with
    | zero => cases enough
    | succ fuel =>
      rw [memberChars, List.nil_append, readChildMembers, nextMember_end, List.append_nil]
      rw [if_pos (by simp [childNesting])]
      rfl
  | cons entry children ih =>
    obtain ⟨name, child⟩ := entry
    cases fuel with
    | zero => cases enough
    | succ fuel =>
      rw [memberChars] at enough ⊢
      simp only [List.append_assoc, List.cons_append, List.length_append, List.length_cons] at enough ⊢
      have read := each (name, child) (List.mem_cons_self ..)
      rw [readChildMembers_cons, read _ _ _ (by dsimp only; omega), childNesting]
      -- the first child that is too deep ends the loop
      by_cases shallow : child.nesting < depth
      · rw [if_pos shallow]
        dsimp only [Except.bind]
        rw [insert_of_distinct distinct, ih (fun entry mem => each entry (List.mem_cons_of_mem _ mem))]
        · have same : max (1 + child.nesting) (childNesting children) ≤ depth ↔
              childNesting children ≤ depth := by omega
          simp [same]
        · simpa using distinct
        · omega
      · rw [if_neg shallow, if_neg (by omega)]
        rfl

theorem readChildren_open (fuel depth : Nat) (cs : List Char) :
    readChildren (fuel + 1) depth ('\x7b' :: cs) =
      if depth ≤ 1 then .error .malformed else readChildMembers fuel (depth - 1) true [] cs := by
  rw [readChildren]
  rfl

theorem readChildren_memberChars {children : List (String × Node)}
    (each : ∀ entry ∈ children, entry.2.IsRead) (filled : children ≠ [])
    (distinct : OrderedMap.Distinct children) {fuel : Nat} (depth : Nat) (rest : List Char)
    (enough : (memberChars jsonChars true children).length + 1 < fuel) :
    readChildren fuel depth ('\x7b' :: (memberChars jsonChars true children ++ '\x7d' :: rest)) =
      if childNesting children < depth then .ok (children, rest) else .error .malformed := by
  have nested : 1 < childNesting children := by
    obtain ⟨⟨name, child⟩, more, rfl⟩ := List.exists_cons_of_ne_nil filled
    have := child.nesting_pos
    rw [childNesting]
    omega
  cases fuel with
  | zero => cases enough
  | succ fuel =>
    have members : readChildMembers fuel (depth - 1) true []
        (memberChars jsonChars true children ++ '\x7d' :: rest) =
        if childNesting children ≤ depth - 1 then .ok (children, rest) else .error .malformed :=
      readChildMembers_memberChars each _ rest distinct (by omega)
    rw [readChildren_open, members]
    by_cases deep : depth ≤ 1
    · rw [if_pos deep, if_neg (by omega)]
    · have same : childNesting children < depth ↔ childNesting children ≤ depth - 1 := by omega
      rw [if_neg deep]
      simp [same]

/-! ## Fields -/

theorem readFields_end (fuel depth : Nat) (first : Bool) {fields : Fields} {node : Node}
    (complete : fields.node? = some node) (rest : List Char) :
    readFields (fuel + 1) depth first fields ('\x7d' :: rest) = .ok (node, rest) := by
  rw [readFields, nextMember_end]
  simp only [bind, Except.bind, complete]
  rfl

theorem readText_quoteChars (text : String) (rest : List Char) :
    readText (Text.quoteChars text.toList ++ rest) = .ok (text, rest) := by
  have inside := congrArg orMalformed (Text.unquote?_quoteChars text.toList rest)
  have read := congrArg (Except.map fun result => (String.ofList result.1, result.2)) inside
  rw [orMalformed, Except.map, String.ofList_toList] at read
  exact read

/-- The reader goes by the name of a field that was not there before. -/
theorem readFields_name {name : String} {fields : Fields} (new : fields.has name = false)
    (fuel depth : Nat) (first : Bool) (rest : List Char) :
    readFields (fuel + 1) depth first fields
        (lead first ++ (Text.quoteChars name.toList ++ ':' :: rest)) =
      if name = "type" then
        (readText rest).bind fun read =>
          readFields fuel depth false { fields with type := some read.1 } read.2
      else if name = "children" then
        (readChildren fuel depth rest).bind fun read =>
          readFields fuel depth false { fields with children := some read.1 } read.2
      else if name = "attributes" then
        (readAttributes depth rest).bind fun read =>
          readFields fuel depth false { fields with attributes := some read.1 } read.2
      else
        (orMalformed (Json.skip? (2 * rest.length + 2) rest)).bind
          (readFields fuel depth false fields) := by
  rw [readFields, nextMember_name]
  simp only [bind, Except.bind, Text.unquote?_quoteChars, orMalformed, String.ofList_toList, new,
    Json.skipBlanks_of_not_blank (show Json.isBlank ':' = false by decide)]
  rfl

/-- The fields from the attributes on. -/
theorem readFields_attributes {type : String} {fields : Fields} (typed : fields.type = some type)
    (new : fields.attributes = none) {attributes : OrderedMap Attribute}
    (back : ∀ x ∈ attributeFloats attributes, x.isFinite ∧ Json.ReadsBack x)
    (distinct : attributes.Distinct) {fuel depth : Nat} (left : 0 < depth) (rest : List Char)
    (enough : (mapChars "attributes" valueChars attributes).length < fuel) :
    readFields fuel depth false fields
        (mapChars "attributes" valueChars attributes ++ '\x7d' :: rest) =
      if attributeNesting attributes < depth then
        .ok (mk type (fields.children.getD []) attributes, rest)
      else .error .malformed := by
  cases fuel with
  | zero => cases enough
  | succ fuel =>
    by_cases empty : attributes = []
    · subst empty
      have complete : fields.node? = some (mk type (fields.children.getD []) []) := by
        simp [Fields.node?, typed, new]
      rw [if_pos (show attributeNesting [] < depth from left)]
      exact readFields_end _ _ _ complete rest
    · have size := congrArg List.length (mapChars_of_ne_nil empty "attributes" valueChars [])
      simp only [List.append_nil, List.length_append, List.length_cons] at size
      have nested : attributeNesting attributes = 1 := by simp [attributeNesting, empty]
      rw [nested, mapChars_of_ne_nil empty, readFields_name (by simp [Fields.has, new]),
        if_neg (by decide), if_neg (by decide), if_pos rfl, readAttributes_memberChars back distinct]
      by_cases deep : 1 < depth
      · rw [if_pos deep, if_pos deep]
        obtain ⟨more, rfl⟩ : ∃ more, fuel = more + 1 := ⟨fuel - 1, by omega⟩
        refine readFields_end _ _ _ ?_ rest
        simp [Fields.node?, typed]
      · rw [if_neg deep, if_neg deep]
        rfl

/-- The fields after the type. -/
theorem readFields_children (type : String) {children : List (String × Node)}
    (each : ∀ entry ∈ children, entry.2.IsRead) (distinct : OrderedMap.Distinct children)
    {attributes : OrderedMap Attribute}
    (back : ∀ x ∈ attributeFloats attributes, x.isFinite ∧ Json.ReadsBack x)
    (distinct' : attributes.Distinct) {fuel depth : Nat} (left : 0 < depth) (rest : List Char)
    (enough : (mapChars "children" jsonChars children).length +
      (mapChars "attributes" valueChars attributes).length < fuel) :
    readFields fuel depth false { type := some type }
        (mapChars "children" jsonChars children ++
          (mapChars "attributes" valueChars attributes ++ '\x7d' :: rest)) =
      if max (childNesting children) (attributeNesting attributes) < depth then
        .ok (mk type children attributes, rest)
      else .error .malformed := by
  cases fuel with
  | zero => cases enough
  | succ fuel =>
    by_cases empty : children = []
    · subst empty
      have none : mapChars "children" jsonChars [] = [] := rfl
      rw [none, List.nil_append, readFields_attributes rfl rfl back distinct' left]
      · simp [childNesting]
      · omega
    · have size := congrArg List.length (mapChars_of_ne_nil empty "children" jsonChars [])
      simp only [List.append_nil, List.length_append, List.length_cons] at size
      rw [mapChars_of_ne_nil empty, readFields_name rfl, if_neg (by decide), if_pos rfl,
        readChildren_memberChars each empty distinct depth _ (by omega)]
      by_cases deep : childNesting children < depth
      · rw [if_pos deep]
        dsimp only [Except.bind]
        rw [readFields_attributes rfl rfl back distinct' left rest (by omega)]
        have same : max (childNesting children) (attributeNesting attributes) < depth ↔
            attributeNesting attributes < depth := by omega
        simp [same]
      · rw [if_neg deep, if_neg (by omega)]
        rfl

theorem readNode_open (fuel depth : Nat) (cs : List Char) :
    readNode (fuel + 1) depth ('\x7b' :: cs) =
      if depth ≤ 1 then .error .malformed else readFields fuel (depth - 1) true {} cs := by
  rw [readNode]
  rfl

theorem isRead_mk (type : String) {children : List (String × Node)}
    (each : ∀ entry ∈ children, entry.2.IsRead) (distinct : OrderedMap.Distinct children)
    {attributes : OrderedMap Attribute}
    (back : ∀ x ∈ attributeFloats attributes, x.isFinite ∧ Json.ReadsBack x)
    (distinct' : attributes.Distinct) : (mk type children attributes).IsRead := by
  intro fuel depth rest enough
  rw [jsonChars_mk] at enough ⊢
  simp only [List.append_assoc, List.cons_append, List.nil_append, List.length_append,
    List.length_cons] at enough ⊢
  obtain ⟨more, rfl⟩ : ∃ more, fuel = more + 1 + 1 := ⟨fuel - 2, by omega⟩
  rw [readNode_open, nesting]
  by_cases deep : depth ≤ 1
  · rw [if_pos deep, if_neg (by omega)]
  · rw [if_neg deep, readFields_name rfl, if_pos rfl, readText_quoteChars]
    dsimp only [Except.bind]
    rw [readFields_children type each distinct back distinct' (by omega) rest (by omega)]
    have same : 1 + max (childNesting children) (attributeNesting attributes) < depth ↔
        max (childNesting children) (attributeNesting attributes) < depth - 1 := by omega
    simp [same]

/-! ## Trees -/

theorem childFloats_eq (children : List (String × Node)) :
    childFloats children = children.flatMap fun entry => entry.2.floats := by
  induction children with
  | nil => rfl
  | cons entry rest ih => rw [childFloats, ih, List.flatMap_cons]

theorem readNode_jsonChars {node : Node} (wellFormed : node.WellFormed)
    (back : ∀ x ∈ node.floats, x.isFinite ∧ Json.ReadsBack x) : node.IsRead := by
  induction node using Node.induction with
  | step type children attributes ih =>
    obtain ⟨distinct, distinct', each⟩ := wellFormed_iff.mp wellFormed
    rw [floats, childFloats_eq] at back
    refine isRead_mk type (fun entry mem => ih entry mem (each entry mem) fun x inside => ?_) distinct
      (fun x inside => back x (List.mem_append_left _ inside)) distinct'
    exact back x (List.mem_append_right _ (List.mem_flatMap.mpr ⟨entry, mem, inside⟩))

/-- If the floating-point numbers of a tree are finite and read back from their texts, the JSON text of
the tree reads as the very same tree, except that the reader refuses to go beyond its depth limit. -/
theorem ofJsonText_jsonText (node : Node) (wellFormed : node.WellFormed)
    (finite : ∀ x ∈ node.floats, x.isFinite)
    (back : ∀ x ∈ node.floats, x.isFinite → Json.ReadsBack x) :
    ofJsonText node.jsonText =
      if node.nesting < Json.depthLimit then .ok node else .error .malformed := by
  have read := readNode_jsonChars wellFormed fun x mem => ⟨finite x mem, back x mem (finite x mem)⟩
  have whole := read (2 * (jsonChars node).length + 2) Json.depthLimit [] (by omega)
  rw [List.append_nil] at whole
  rw [ofJsonText, jsonText, String.toList_ofList, whole]
  split <;> rfl

/-- Texts that look like other values, numbers without a fraction, empty and escaped names. -/
theorem ofJsonText_jsonText_of_every_kind :
    let scalars := mk "" [] [("", .null), ("b", .bool false), ("n", .int (-1)), ("\"é\n", .text "1"),
      ("s", .text "null"), ("one", .float ⟨0x3ff0000000000000⟩), ("zero", .float ⟨0x8000000000000000⟩),
      ("large", .float ⟨0x4341c37937e08000⟩)]
    let root := mk "body" [("", scalars), ("0", leaf "text")] []
    root.WellFormed ∧ (∀ x ∈ root.floats, x.isFinite ∧ Json.ReadsBack x) ∧ root.nesting = 4 ∧
      ofJsonText root.jsonText = .ok root := by
  intro scalars root
  have wellFormed : root.WellFormed :=
    ⟨by decide, by decide, ⟨by decide, by decide, trivial⟩, wellFormed_leaf _, trivial⟩
  have back : ∀ x ∈ root.floats, x.isFinite ∧ Json.ReadsBack x := by decide +kernel
  refine ⟨wellFormed, back, rfl, ?_⟩
  exact ofJsonText_jsonText root wellFormed (fun x mem => (back x mem).1) fun x mem _ => (back x mem).2

end Node

end Stencil
