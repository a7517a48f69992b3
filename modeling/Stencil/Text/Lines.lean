/-! Lines of a text.

* `lines`: the lines that line feeds end. A carriage return right before a line feed belongs to the
  line end, a final line feed starts no further line, and a final line may lack its line feed.
* `joinLines`: lines put together with one line feed between them. -/

namespace Stencil.Text
set_option autoImplicit false

/-- The pieces between line feeds. There is always one piece more than there are line feeds. -/
def splitLineFeeds : List Char → List (List Char)
  | [] => [[]]
  | c :: rest =>
    if c == '\n' then [] :: splitLineFeeds rest
    else
      match splitLineFeeds rest with
      | [] => [[c]]
      | piece :: pieces => (c :: piece) :: pieces

/-- A line without the carriage return at its end. -/
def dropReturn (line : List Char) : List Char :=
  match line.getLast? with
  | some '\r' => line.dropLast
  | _ => line

/-- The lines among the pieces between line feeds: only a piece that a line feed ends loses its
carriage return, and an empty last piece is no line. -/
def linesOfPieces : List (List Char) → List (List Char)
  | [] => []
  | [last] => if last.isEmpty then [] else [last]
  | piece :: pieces => dropReturn piece :: linesOfPieces pieces

/-- The lines of a list of characters. -/
def lines (cs : List Char) : List (List Char) := linesOfPieces (splitLineFeeds cs)

/-- Lines put together with one line feed between them. -/
def joinLines (parts : List String) : String := String.intercalate "\n" parts

end Stencil.Text
