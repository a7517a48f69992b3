import Stencil.Fault
import Stencil.Text.Lines
import Stencil.Text.Quoted

/-! Commands: a format with placeholders and the arguments that fill them.

* `Arg`, `Command`: the text of a compiled child, or text of the handler's own.
* `Piece`, `pieces`: a format read from left to right. `%s` is a placeholder, `%%` one percent sign,
  and a percent sign before any other character or at the end stands for itself.
* `countPlaceholders`: how many arguments a format takes.
* `Command.serialize`: the format with its placeholders filled in order; the arguments are copied and
  never read again.
* `serializeAll`: one line for each command. -/

namespace Stencil
set_option autoImplicit false

/-- What fills one placeholder. -/
inductive Arg where
  /-- The text of a compiled child. -/
  | segment (text : String)
  /-- Text that the handler itself produces. -/
  | literal (text : String)
deriving DecidableEq, Repr

namespace Arg

def text : Arg → String
  | segment s => s
  | literal s => s

/-- A string literal as an argument. -/
def quoted (value : String) : Arg := literal (Text.quote value)

end Arg

/-- A statement to emit: a format and what fills its placeholders, in order. -/
structure Command where
  format : String
  args : List Arg
deriving DecidableEq, Repr

/-! ## Formats -/

/-- A unit of a format. -/
inductive Piece where
  | char (c : Char)
  | slot
deriving DecidableEq, Repr

/-- The units of a format, from left to right. -/
def pieces : List Char → List Piece
  | [] => []
  | '%' :: 's' :: rest => .slot :: pieces rest
  | '%' :: '%' :: rest => .char '%' :: pieces rest
  | '%' :: c :: rest => .char '%' :: .char c :: pieces rest
  | c :: rest => .char c :: pieces rest

/-- The pieces with their placeholders filled from left to right. -/
def fill : List Piece → List String → List Char
  | [], _ => []
  | .char c :: ps, texts => c :: fill ps texts
  | .slot :: ps, text :: texts => text.toList ++ fill ps texts
  | .slot :: ps, [] => fill ps []

/-- The number of placeholders in a format, counted without the pieces. The character behind a percent
sign is passed over with it. -/
def countPlaceholders : List Char → Nat
  | [] => 0
  | '%' :: 's' :: rest => countPlaceholders rest + 1
  | '%' :: _ :: rest => countPlaceholders rest
  | _ :: rest => countPlaceholders rest

namespace Command

/-- A command that emits a segment unchanged. -/
def verbatim (segment : String) : Command := ⟨"%s", [.segment segment]⟩

/-- The number of placeholders in the format. -/
def placeholders (command : Command) : Nat := countPlaceholders command.format.toList

/-- The format with its placeholders filled. The number of arguments has to match. -/
def serialize (command : Command) : Except Fault String :=
  if command.placeholders = command.args.length then
    .ok (String.ofList (fill (pieces command.format.toList) (command.args.map Arg.text)))
  else
    .error (.here (.malformedCommand command.format command.placeholders command.args.length))

end Command

/-- The commands in order, one line each. The first malformed command is the fault. -/
def serializeAll (commands : List Command) : Except Fault String :=
  (commands.mapM Command.serialize).map Text.joinLines

end Stencil
