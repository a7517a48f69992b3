import Stencil.Handler
import Stencil.Proofs.Numeral
import Stencil.Proofs.Quoted

/-! The forms that generated code can take, and how they are written.

* `Item`, `Form`: a statement or an expression, and a sequence of them. Any form can stand in any
  place: a sequence of statements as the key of a mapping, nothing at all as an expression.
* `formChars`: the text of a form.
* `Form.Cancels`: a form can be read off the front of a text. `Form.cancels` says that every form
  can, whatever follows, as long as this does not go on with the form itself. -/

namespace Stencil
set_option autoImplicit false

abbrev Numeral := { text : String // IsNumeral text }

inductive Literal where
  | null
  | bool (value : Bool)
  | number (numeral : Numeral)
  | string (value : String)
deriving DecidableEq

structure KeyValue (α : Type) where
  /-- Whether the key is an expression to be evaluated. -/
  computed : Bool
  key : α
  value : α
deriving DecidableEq

/-- A statement or an expression of generated code. -/
inductive Item where
  | print (expr : List Item)
  | include (target : List Item) (data : Option (List Item)) (only ignoreMissing : Bool)
  | constant (literal : Literal)
  | name (key : String)
  | hash (pairs : List (KeyValue (List Item)))

abbrev Form := List Item

/-! ## Texts -/

def Literal.chars : Literal → List Char
  | null => "null".toList
  | bool b => if b then "true".toList else "false".toList
  | number numeral => numeral.val.toList
  | string value => Text.quoteChars value.toList

def flagChars (only ignoreMissing : Bool) : List Char :=
  (if only then "undefined".toList else "context".toList) ++
    (", ".toList ++ ((if ignoreMissing then '1' else '0') :: ");".toList))

mutual

def Item.chars : Item → List Char
  | .print expr => "html += ".toList ++ (formChars expr ++ [';'])
  | .include target data only ignoreMissing =>
    "html += ".toList ++ ("render(".toList ++ (formChars target ++
      (", ".toList ++ (dataChars data ++ (", ".toList ++ flagChars only ignoreMissing)))))
  | .constant literal => literal.chars
  | .name key => "context[".toList ++ (Text.quoteChars key.toList ++ [']'])
  | .hash pairs => '\x7b' :: (pairsChars pairs ++ ['\x7d'])

def formChars : List Item → List Char
  | [] => []
  | item :: rest => item.chars ++ linesChars rest

def linesChars : List Item → List Char
  | [] => []
  | item :: rest => '\n' :: (item.chars ++ linesChars rest)

def dataChars : Option (List Item) → List Char
  | none => "[]".toList
  | some data => formChars data

def pairChars : KeyValue (List Item) → List Char
  | ⟨computed, key, value⟩ =>
    if computed then '[' :: (formChars key ++ (']' :: (": ".toList ++ formChars value)))
    else formChars key ++ (": ".toList ++ formChars value)

def pairsChars : List (KeyValue (List Item)) → List Char
  | [] => []
  | pair :: rest => pairChars pair ++ morePairsChars rest

def morePairsChars : List (KeyValue (List Item)) → List Char
  | [] => []
  | pair :: rest => ", ".toList ++ (pairChars pair ++ morePairsChars rest)

end

theorem chars_print (expr : Form) :
    (Item.print expr).chars = "html += ".toList ++ (formChars expr ++ [';']) := rfl

theorem chars_include (target : Form) (data : Option Form) (only ignoreMissing : Bool) :
    (Item.include target data only ignoreMissing).chars =
      "html += ".toList ++ ("render(".toList ++ (formChars target ++
        (", ".toList ++ (dataChars data ++ (", ".toList ++ flagChars only ignoreMissing))))) := rfl

theorem chars_constant (literal : Literal) : (Item.constant literal).chars = literal.chars := rfl

theorem chars_name (key : String) : (Item.name key).chars =
    "context[".toList ++ (Text.quoteChars key.toList ++ [']']) := rfl

theorem chars_hash (pairs : List (KeyValue Form)) :
    (Item.hash pairs).chars = '\x7b' :: (pairsChars pairs ++ ['\x7d']) := rfl

/-! ## First characters -/

/-- What an item is, as far as its first character tells. -/
inductive Lead where
  | statement
  | name
  | hash
  | null
  | yes
  | no
  | string
  | number
  /-- No item at all. -/
  | other
deriving DecidableEq

def lead (c : Char) : Lead :=
  if c = 'h' then .statement
  else if c = 'c' then .name
  else if c = '\x7b' then .hash
  else if c = 'n' then .null
  else if c = 't' then .yes
  else if c = 'f' then .no
  else if c = '"' then .string
  else if isNumeralChar c then .number
  else .other

def Literal.lead : Literal → Lead
  | null => .null
  | bool true => .yes
  | bool false => .no
  | number _ => .number
  | string _ => .string

def Item.lead : Item → Lead
  | .print _ => .statement
  | .include .. => .statement
  | .constant literal => literal.lead
  | .name _ => .name
  | .hash _ => .hash

theorem lead_of_isNumeralChar {c : Char} (h : isNumeralChar c) : lead c = .number := by
  have ne : ∀ d, isNumeralChar d = false → c ≠ d := by
    rintro d hd rfl
    rw [h] at hd
    cases hd
  rw [lead, if_neg (ne 'h' (by decide)), if_neg (ne 'c' (by decide)),
    if_neg (ne '\x7b' (by decide)), if_neg (ne 'n' (by decide)), if_neg (ne 't' (by decide)),
    if_neg (ne 'f' (by decide)), if_neg (ne '"' (by decide)), if_pos h]

theorem Literal.chars_lead (literal : Literal) :
    ∃ c cs, literal.chars = c :: cs ∧ Stencil.lead c = literal.lead := by
  cases literal with
  | null => exact ⟨'n', _, rfl, rfl⟩
  | bool b =>
    cases b
    · exact ⟨'f', _, rfl, rfl⟩
    · exact ⟨'t', _, rfl, rfl⟩
  | number numeral =>
    obtain ⟨c, cs, h⟩ := List.exists_cons_of_ne_nil (toList_ne_nil_of_isNumeral numeral.property)
    refine ⟨c, cs, h, lead_of_isNumeralChar (isNumeralChar_of_mem numeral.property c ?_)⟩
    rw [h]
    exact List.mem_cons_self ..
  | string value => exact ⟨'"', _, rfl, rfl⟩

/-- The first character of an item tells what it is. -/
theorem Item.chars_lead (item : Item) :
    ∃ c cs, item.chars = c :: cs ∧ Stencil.lead c = item.lead := by
  cases item with
  | print expr => exact ⟨'h', _, rfl, rfl⟩
  | «include» target data only ignoreMissing => exact ⟨'h', _, rfl, rfl⟩
  | constant literal => exact literal.chars_lead
  | name key => exact ⟨'c', _, rfl, rfl⟩
  | hash pairs => exact ⟨'\x7b', _, rfl, rfl⟩

theorem Item.lead_eq {first second : Item} {rest more : List Char}
    (h : first.chars ++ rest = second.chars ++ more) : first.lead = second.lead := by
  obtain ⟨c, cs, hc, leadc⟩ := first.chars_lead
  obtain ⟨d, ds, hd, leadd⟩ := second.chars_lead
  rw [hc, hd, List.cons_append, List.cons_append] at h
  rw [← leadc, ← leadd, (List.cons.inj h).1]

theorem Item.lead_ne_other (item : Item) : item.lead ≠ .other := by
  cases item with
  | constant literal =>
    cases literal with
    | bool b => cases b <;> exact nofun
    | _ => exact nofun
  | _ => exact nofun

/-! ## What can follow -/

def closes (c : Char) : Bool := c == ';' || c == ',' || c == ':' || c == ']' || c == '\x7d'

/-- The text goes on behind a form, or there is none. -/
def Closed (rest : List Char) : Prop := ∀ c ∈ rest.head?, closes c

/-- The text goes on behind an item, with a line feed or behind the form that the item ends. -/
def Ended (rest : List Char) : Prop := ∀ c ∈ rest.head?, closes c ∨ c = '\n'

theorem closed_nil : Closed [] := nofun

theorem closed_cons {c : Char} (h : closes c) (rest : List Char) : Closed (c :: rest) := by
  intro d hd
  cases hd
  exact h

theorem Closed.ended {rest : List Char} (h : Closed rest) : Ended rest :=
  fun c hc => .inl (h c hc)

theorem ended_lines (items : List Item) {rest : List Char} (h : Closed rest) :
    Ended (linesChars items ++ rest) := by
  cases items with
  | nil => exact h.ended
  | cons item items =>
    intro c hc
    cases hc
    exact .inr rfl

theorem lead_of_closes {c : Char} (h : closes c) : lead c = .other := by
  simp only [closes, Bool.or_eq_true, beq_iff_eq] at h
  obtain (((rfl | rfl) | rfl) | rfl) | rfl := h <;> decide

theorem not_numeral_of_ended {rest : List Char} (h : Ended rest) :
    ∀ c ∈ rest.head?, isNumeralChar c = false := by
  intro c hc
  rcases h c hc with closing | rfl
  · simp only [closes, Bool.or_eq_true, beq_iff_eq] at closing
    obtain (((rfl | rfl) | rfl) | rfl) | rfl := closing <;> decide
  · decide

/-! ## Cancellation of literals -/

/-- Two texts of which the first parts are made of certain characters and the others do not start
with one. -/
theorem append_inj_of_all {p : Char → Bool} {xs ys rest more : List Char}
    (hx : ∀ c ∈ xs, p c) (hy : ∀ c ∈ ys, p c) (hr : ∀ c ∈ rest.head?, p c = false)
    (hm : ∀ c ∈ more.head?, p c = false) (h : xs ++ rest = ys ++ more) : xs = ys ∧ rest = more := by
  have stop : ∀ {tail : List Char}, (∀ c ∈ tail.head?, p c = false) → tail.takeWhile p = [] := by
    intro tail ht
    cases tail with
    | nil => rfl
    | cons c tail => simp [ht c rfl]
  have fronts := congrArg (List.takeWhile p) h
  rw [List.takeWhile_append_of_pos hx, List.takeWhile_append_of_pos hy, stop hr, stop hm,
    List.append_nil, List.append_nil] at fronts
  subst fronts
  exact ⟨rfl, List.append_cancel_left h⟩

theorem Literal.cancel {first second : Literal} {rest more : List Char} (hr : Ended rest)
    (hm : Ended more) (h : first.chars ++ rest = second.chars ++ more) :
    first = second ∧ rest = more := by
  have same : first.lead = second.lead := @Item.lead_eq (.constant first) (.constant second) _ _ h
  match first, second, same with
  | .null, .null, _ => exact ⟨rfl, List.append_cancel_left h⟩
  | .bool true, .bool true, _ => exact ⟨rfl, List.append_cancel_left h⟩
  | .bool false, .bool false, _ => exact ⟨rfl, List.append_cancel_left h⟩
  | .number n, .number m, _ =>
    -- A number has no closing character of its own: it ends where another character stands.
    obtain ⟨texts, rests⟩ := append_inj_of_all (isNumeralChar_of_mem n.property)
      (isNumeralChar_of_mem m.property) (not_numeral_of_ended hr) (not_numeral_of_ended hm) h
    exact ⟨congrArg number (Subtype.ext (String.toList_inj.mp texts)), rests⟩
  | .string v, .string w, _ =>
    obtain ⟨texts, rests⟩ := Text.quoteChars_append_inj h
    exact ⟨congrArg string (String.toList_inj.mp texts), rests⟩

/-! ## Cancellation of sequences -/

def Item.Cancels (item : Item) : Prop :=
  ∀ (other : Item) (rest more : List Char), Ended rest → Ended more →
    item.chars ++ rest = other.chars ++ more → item = other ∧ rest = more

/-- The form can be read off the front of a text. -/
def Form.Cancels (form : Form) : Prop :=
  ∀ (other : Form) (rest more : List Char), Closed rest → Closed more →
    formChars form ++ rest = formChars other ++ more → form = other ∧ rest = more

theorem form_eq_nil {form : Form} {c : Char} {rest more : List Char} (hc : lead c = .other)
    (h : formChars form ++ rest = c :: more) : form = [] := by
  cases form with
  | nil => rfl
  | cons item items =>
    obtain ⟨d, ds, hd, leadd⟩ := item.chars_lead
    rw [formChars, hd, List.cons_append, List.cons_append] at h
    rw [(List.cons.inj h).1, hc] at leadd
    exact absurd leadd.symm item.lead_ne_other

theorem form_eq_nil_of_closed {form : Form} {rest more : List Char} (hm : Closed more)
    (h : formChars form ++ rest = more) : form = [] := by
  cases more with
  | nil =>
    cases form with
    | nil => rfl
    | cons item items =>
      obtain ⟨d, ds, hd, -⟩ := item.chars_lead
      rw [formChars, hd] at h
      cases h
  | cons c more => exact form_eq_nil (lead_of_closes (hm c rfl)) h

theorem lines_cancel {items : List Item} (each : ∀ item ∈ items, item.Cancels) :
    ∀ (others : List Item) (rest more : List Char), Closed rest → Closed more →
      linesChars items ++ rest = linesChars others ++ more → items = others ∧ rest = more := by
  have apart : ∀ (item : Item) (items : List Item) (rest more : List Char), Closed rest →
      rest ≠ linesChars (item :: items) ++ more := by
    intro item items rest more hr h
    have := hr '\n' (by rw [h]; rfl)
    exact absurd this (by decide)
  induction items with
  | nil =>
    intro others rest more hr hm h
    cases others with
    | nil => exact ⟨rfl, h⟩
    | cons other others => exact absurd h (apart other others rest more hr)
  | cons item items ih =>
    intro others rest more hr hm h
    cases others with
    | nil => exact absurd h.symm (apart item items more rest hm)
    | cons other others =>
      rw [linesChars, linesChars, List.cons_append, List.cons_append, List.append_assoc,
        List.append_assoc] at h
      obtain ⟨rfl, tails⟩ := each item (List.mem_cons_self ..) other _ _ (ended_lines items hr)
        (ended_lines others hm) (List.cons.inj h).2
      obtain ⟨rfl, rests⟩ := ih (fun x hx => each x (List.mem_cons_of_mem item hx)) others rest more
        hr hm tails
      exact ⟨rfl, rests⟩

theorem Form.cancels_of_items {form : Form} (each : ∀ item ∈ form, item.Cancels) :
    Form.Cancels form := by
  intro other rest more hr hm h
  cases form with
  | nil =>
    have none := form_eq_nil_of_closed hr h.symm
    subst none
    exact ⟨rfl, h⟩
  | cons item items =>
    cases other with
    | nil => cases form_eq_nil_of_closed hm h
    | cons other others =>
      rw [formChars, formChars, List.append_assoc, List.append_assoc] at h
      obtain ⟨rfl, tails⟩ := each item (List.mem_cons_self ..) other _ _ (ended_lines items hr)
        (ended_lines others hm) h
      obtain ⟨rfl, rests⟩ := lines_cancel (fun x hx => each x (List.mem_cons_of_mem item hx)) others
        rest more hr hm tails
      exact ⟨rfl, rests⟩

/-! ## Cancellation of items -/

theorem Literal.lead_ne (literal : Literal) :
    literal.lead ≠ .statement ∧ literal.lead ≠ .name ∧ literal.lead ≠ .hash := by
  cases literal with
  | bool b => cases b <;> exact ⟨nofun, nofun, nofun⟩
  | _ => exact ⟨nofun, nofun, nofun⟩

theorem Item.cases_statement {item : Item} (h : item.lead = .statement) :
    (∃ expr, item = .print expr) ∨
      ∃ target data only ignoreMissing, item = .include target data only ignoreMissing := by
  cases item with
  | print expr => exact .inl ⟨expr, rfl⟩
  | «include» target data only ignoreMissing => exact .inr ⟨target, data, only, ignoreMissing, rfl⟩
  | constant literal => exact absurd h literal.lead_ne.1
  | name key => cases h
  | hash pairs => cases h

theorem Item.cases_name {item : Item} (h : item.lead = .name) : ∃ key, item = .name key := by
  cases item with
  | name key => exact ⟨key, rfl⟩
  | constant literal => exact absurd h literal.lead_ne.2.1
  | _ => cases h

theorem Item.cases_hash {item : Item} (h : item.lead = .hash) : ∃ pairs, item = .hash pairs := by
  cases item with
  | hash pairs => exact ⟨pairs, rfl⟩
  | constant literal => exact absurd h literal.lead_ne.2.2
  | _ => cases h

theorem Item.cases_constant {item : Item} {literal : Literal} (h : item.lead = literal.lead) :
    ∃ other, item = .constant other := by
  obtain ⟨statement, name, hash⟩ := literal.lead_ne
  cases item with
  | constant other => exact ⟨other, rfl⟩
  | print _ => exact absurd h.symm statement
  | «include» _ _ _ _ => exact absurd h.symm statement
  | name _ => exact absurd h.symm name
  | hash _ => exact absurd h.symm hash

/-- A form that is followed by `c` does not start like anything but an item or `c`. -/
theorem form_append_ne (form : Form) {c d : Char} (hd : lead d = .other) (hcd : c ≠ d)
    (rest more : List Char) : formChars form ++ c :: rest ≠ d :: more := by
  intro same
  have none := form_eq_nil hd same
  rw [none, formChars, List.nil_append] at same
  exact hcd (List.cons.inj same).1

theorem cancels_print {expr : Form} (h : Form.Cancels expr) : (Item.print expr).Cancels := by
  intro other rest more _ _ same
  obtain ⟨expr', rfl⟩ | ⟨target, data, only, ignoreMissing, rfl⟩ :=
    Item.cases_statement (Item.lead_eq same).symm
  · simp only [chars_print, List.append_assoc, List.append_cancel_left_eq, List.singleton_append]
      at same
    obtain ⟨rfl, tail⟩ := h expr' _ _ (closed_cons (by decide) rest) (closed_cons (by decide) more)
      same
    exact ⟨rfl, (List.cons.inj tail).2⟩
  -- An inclusion goes on with `render(`, which no item starts with.
  · simp only [chars_print, chars_include, List.append_assoc, List.append_cancel_left_eq,
      List.singleton_append] at same
    exact absurd same (form_append_ne expr (by decide) (by decide) rest _)

theorem comma_append (rest : List Char) : ", ".toList ++ rest = ',' :: ' ' :: rest := rfl

theorem closed_comma (rest : List Char) : Closed (", ".toList ++ rest) :=
  closed_cons (by decide) _

theorem data_cancel {data other : Option Form} {rest more : List Char}
    (h : ∀ form ∈ data, Form.Cancels form)
    (same : dataChars data ++ (", ".toList ++ rest) = dataChars other ++ (", ".toList ++ more)) :
    data = other ∧ rest = more := by
  rw [comma_append, comma_append] at same
  match data, other with
  | none, none =>
    rw [List.append_cancel_left_eq] at same
    exact ⟨rfl, (List.cons.inj (List.cons.inj same).2).2⟩
  -- Absent data are written with a bracket, which no item starts with.
  | none, some form =>
    exact absurd same.symm (form_append_ne form (by decide) (by decide) _ _)
  | some form, none =>
    exact absurd same (form_append_ne form (by decide) (by decide) _ _)
  | some form, some form' =>
    obtain ⟨rfl, tail⟩ := h form rfl form' _ _ (closed_cons (by decide) _)
      (closed_cons (by decide) _) same
    exact ⟨rfl, (List.cons.inj (List.cons.inj tail).2).2⟩

theorem flag_cancel {only only' ignoreMissing ignoreMissing' : Bool} {rest more : List Char}
    (same : flagChars only ignoreMissing ++ rest = flagChars only' ignoreMissing' ++ more) :
    only = only' ∧ ignoreMissing = ignoreMissing' ∧ rest = more := by
  cases only <;> cases only' <;> cases ignoreMissing <;> cases ignoreMissing' <;>
    simp_all [flagChars]

theorem cancels_include {target : Form} {data : Option Form} (only ignoreMissing : Bool)
    (ht : Form.Cancels target) (hd : ∀ form ∈ data, Form.Cancels form) :
    (Item.include target data only ignoreMissing).Cancels := by
  intro other rest more _ _ same
  obtain ⟨expr', rfl⟩ | ⟨target', data', only', ignoreMissing', rfl⟩ :=
    Item.cases_statement (Item.lead_eq same).symm
  · simp only [chars_print, chars_include, List.append_assoc, List.append_cancel_left_eq,
      List.singleton_append] at same
    exact absurd same.symm (form_append_ne expr' (by decide) (by decide) more _)
  · simp only [chars_include, List.append_assoc, List.append_cancel_left_eq] at same
    obtain ⟨rfl, tail⟩ := ht target' _ _ (closed_comma _) (closed_comma _) same
    rw [List.append_cancel_left_eq] at tail
    obtain ⟨rfl, flags⟩ := data_cancel hd tail
    obtain ⟨rfl, rfl, rests⟩ := flag_cancel flags
    exact ⟨rfl, rests⟩

theorem cancels_constant (literal : Literal) : (Item.constant literal).Cancels := by
  intro other rest more hr hm same
  obtain ⟨literal', rfl⟩ := Item.cases_constant (Item.lead_eq same).symm
  obtain ⟨rfl, rests⟩ := Literal.cancel hr hm same
  exact ⟨rfl, rests⟩

theorem cancels_name (key : String) : (Item.name key).Cancels := by
  intro other rest more _ _ same
  obtain ⟨key', rfl⟩ := Item.cases_name (Item.lead_eq same).symm
  simp only [chars_name, List.append_assoc, List.append_cancel_left_eq] at same
  obtain ⟨keys, tail⟩ := Text.quoteChars_append_inj same
  exact ⟨congrArg Item.name (String.toList_inj.mp keys), (List.cons.inj tail).2⟩

/-! ## Cancellation of mappings -/

def PairCancels (pair : KeyValue Form) : Prop :=
  Form.Cancels pair.key ∧ Form.Cancels pair.value

theorem colon_append (rest : List Char) : ": ".toList ++ rest = ':' :: ' ' :: rest := rfl

theorem pair_cancel {pair other : KeyValue Form} {rest more : List Char} (h : PairCancels pair)
    (hr : Closed rest) (hm : Closed more) (same : pairChars pair ++ rest = pairChars other ++ more) :
    pair = other ∧ rest = more := by
  obtain ⟨computed, key, value⟩ := pair
  obtain ⟨computed', key', value'⟩ := other
  obtain ⟨hk, hv⟩ := h
  cases computed <;> cases computed' <;>
    simp only [pairChars, if_true, Bool.false_eq_true, if_false, List.append_assoc, List.cons_append,
      colon_append] at same
  · obtain ⟨rfl, tail⟩ := hk key' _ _ (closed_cons (by decide) _) (closed_cons (by decide) _) same
    obtain ⟨rfl, rests⟩ := hv value' _ _ hr hm (List.cons.inj (List.cons.inj tail).2).2
    exact ⟨rfl, rests⟩
  -- The bracket of a computed key is not part of a plain one.
  · exact absurd same (form_append_ne key (by decide) (by decide) _ _)
  · exact absurd same.symm (form_append_ne key' (by decide) (by decide) _ _)
  · obtain ⟨rfl, tail⟩ := hk key' _ _ (closed_cons (by decide) _) (closed_cons (by decide) _)
      (List.cons.inj same).2
    obtain ⟨rfl, rests⟩ := hv value' _ _ hr hm
      (List.cons.inj (List.cons.inj (List.cons.inj tail).2).2).2
    exact ⟨rfl, rests⟩

theorem pair_append_ne (pair : KeyValue Form) (rest more : List Char) :
    pairChars pair ++ rest ≠ '\x7d' :: more := by
  obtain ⟨computed, key, value⟩ := pair
  cases computed <;>
    simp only [pairChars, if_true, Bool.false_eq_true, if_false, List.append_assoc, List.cons_append,
      colon_append]
  · exact form_append_ne key (by decide) (by decide) _ _
  · intro same
    exact absurd (List.cons.inj same).1 (by decide)

theorem closed_morePairs (pairs : List (KeyValue Form)) (rest : List Char) :
    Closed (morePairsChars pairs ++ '\x7d' :: rest) := by
  cases pairs with
  | nil => exact closed_cons (by decide) rest
  | cons pair pairs => exact closed_cons (by decide) _

theorem morePairs_cancel {pairs : List (KeyValue Form)} (each : ∀ pair ∈ pairs, PairCancels pair) :
    ∀ (others : List (KeyValue Form)) (rest more : List Char),
      morePairsChars pairs ++ '\x7d' :: rest = morePairsChars others ++ '\x7d' :: more →
      pairs = others ∧ rest = more := by
  induction pairs with
  | nil =>
    intro others rest more same
    cases others with
    | nil => exact ⟨rfl, (List.cons.inj same).2⟩
    | cons other others => exact absurd (List.cons.inj same).1 (by decide)
  | cons pair pairs ih =>
    intro others rest more same
    cases others with
    | nil => exact absurd (List.cons.inj same).1 (by decide)
    | cons other others =>
      simp only [morePairsChars, List.append_assoc, List.append_cancel_left_eq] at same
      obtain ⟨rfl, tail⟩ := pair_cancel (each pair (List.mem_cons_self ..))
        (closed_morePairs pairs rest) (closed_morePairs others more) same
      obtain ⟨rfl, rests⟩ := ih (fun p hp => each p (List.mem_cons_of_mem pair hp)) others rest more
        tail
      exact ⟨rfl, rests⟩

theorem cancels_hash {pairs : List (KeyValue Form)} (each : ∀ pair ∈ pairs, PairCancels pair) :
    (Item.hash pairs).Cancels := by
  intro other rest more _ _ same
  obtain ⟨others, rfl⟩ := Item.cases_hash (Item.lead_eq same).symm
  simp only [chars_hash, List.cons_append, List.append_assoc, List.nil_append] at same
  replace same := (List.cons.inj same).2
  cases pairs with
  | nil =>
    cases others with
    | nil => exact ⟨rfl, (List.cons.inj same).2⟩
    | cons other others =>
      rw [pairsChars, pairsChars, List.append_assoc] at same
      exact absurd same.symm (pair_append_ne other _ rest)
  | cons pair pairs =>
    cases others with
    | nil =>
      rw [pairsChars, pairsChars, List.append_assoc] at same
      exact absurd same (pair_append_ne pair _ more)
    | cons other others =>
      rw [pairsChars, pairsChars, List.append_assoc, List.append_assoc] at same
      obtain ⟨rfl, tail⟩ := pair_cancel (each pair (List.mem_cons_self ..))
        (closed_morePairs pairs rest) (closed_morePairs others more) same
      obtain ⟨rfl, rests⟩ := morePairs_cancel (fun p hp => each p (List.mem_cons_of_mem pair hp))
        others rest more tail
      exact ⟨rfl, rests⟩

/-! ## All forms -/

mutual

theorem Item.cancels : ∀ item : Item, item.Cancels
  | .print expr => cancels_print (Form.cancels expr)
  | .include target none only ignoreMissing =>
    cancels_include only ignoreMissing (Form.cancels target) nofun
  | .include target (some data) only ignoreMissing =>
    cancels_include only ignoreMissing (Form.cancels target)
      (fun form h => Option.some.inj h ▸ Form.cancels data)
  | .constant literal => cancels_constant literal
  | .name key => cancels_name key
  | .hash pairs => cancels_hash (pairs_cancel pairs)

/-- Every form can be read off the front of a text. -/
theorem Form.cancels (form : List Item) : Form.Cancels form :=
  Form.cancels_of_items (items_cancel form)

theorem items_cancel : ∀ items : List Item, ∀ item ∈ items, item.Cancels
  | [], _, h => nomatch h
  | first :: rest, item, h => by
    rcases List.mem_cons.mp h with h | h
    · exact h ▸ Item.cancels first
    · exact items_cancel rest item h

theorem pairs_cancel : ∀ pairs : List (KeyValue (List Item)), ∀ pair ∈ pairs, PairCancels pair
  | [], _, h => nomatch h
  | ⟨_, key, value⟩ :: rest, pair, h => by
    rcases List.mem_cons.mp h with h | h
    · exact h ▸ ⟨Form.cancels key, Form.cancels value⟩
    · exact pairs_cancel rest pair h

end

theorem formChars_inj {form other : Form} (h : formChars form = formChars other) : form = other := by
  have same : formChars form ++ [] = formChars other ++ [] := by rw [h]
  exact (Form.cancels form other [] [] closed_nil closed_nil same).1

end Stencil
