import Stencil.Mismatch
import Stencil.Options.Basic
import Stencil.Toml.Reader

/-! Options as a TOML document with the keys `wrap`, `indent` and `export`, all of which may be absent.

* `Options.ofToml`: the options of the entries of a document, or the first complaint about them.
* `Options.ofTomlText`: the options of a text. -/

namespace Stencil
set_option autoImplicit false

/-- Why a text gives no options. -/
inductive OptionsIssue where
  /-- The text is no TOML document. -/
  | malformed
  /-- An entry is unknown or of the wrong type. -/
  | shape (message : String)
  /-- Generated code cannot use the options. -/
  | defect (message : String)
deriving DecidableEq, Repr

/-- What is wrong. -/
def OptionsIssue.message : OptionsIssue → String
  | malformed => "TOML parse error"
  | shape message => "TOML parse error: " ++ message
  | defect message => message

/-- What a value is, in complaints. A date is written as a map. -/
def Toml.found : Toml → Found
  | text s => .text s
  | integer n => .integer n
  | float x => .float x
  | bool b => .bool b
  | dateTime _ => .map
  | array _ => .sequence
  | table _ _ => .map
  | tables _ => .sequence

namespace Options

/-- The words that complaints about options use. -/
def words : FoundStyle := ⟨"unit value", Binary64.pointed⟩

/-- The complaint about a value where something else is expected. -/
def unexpectedValue {α : Type} (expected : String) (value : Toml) : Except String α :=
  .error (invalidType words value.found expected)

/-- The keys of the options. -/
def keys : List String := ["wrap", "indent", "export"]

/-- The options with one entry taken over. -/
def withEntry (options : Options) (key : String) (value : Toml) : Except String Options :=
  if key = "wrap" then
    match value with
    | .bool b => .ok { options with wrap := b }
    | other => unexpectedValue "a boolean" other
  else if key = "indent" then
    match value with
    | .integer n =>
      if n < 0 then .error (invalidValue words (.integer n) "usize")
      else .ok { options with indent := n.toNat }
    | other => unexpectedValue "usize" other
  else if key = "export" then
    match value with
    | .text s => .ok { options with exportName := some s }
    | other => unexpectedValue "a string" other
  else .error (unknownField key keys)

/-- The options of the entries of a document. The first entry that is wrong is reported. -/
def ofToml (entries : Toml.Entries) : Except String Options :=
  entries.foldlM (fun options entry => options.withEntry entry.1 entry.2) {}

/-- The options of a text. -/
def ofTomlText (text : String) : Except OptionsIssue Options :=
  match Toml.ofText? text with
  | none => .error .malformed
  | some entries =>
    match ofToml entries with
    | .error message => .error (.shape message)
    | .ok options =>
      match options.defect? with
      | some message => .error (.defect message)
      | none => .ok options

end Options

end Stencil
