/-! Names that generated code can use for a variable.

* `isIdentifier`: a letter, underscore or dollar sign, then any number of these and of digits, and no
  reserved word. -/

namespace Stencil
set_option autoImplicit false

/-- Words that cannot name a variable in generated code. -/
def reservedWords : List String :=
  ["await", "break", "case", "catch", "class", "const", "continue", "debugger", "default",
   "delete", "do", "else", "enum", "export", "extends", "false", "finally", "for", "function",
   "if", "implements", "import", "in", "instanceof", "interface", "let", "new", "null",
   "package", "private", "protected", "public", "return", "static", "super", "switch", "this",
   "throw", "true", "try", "typeof", "var", "void", "while", "with", "yield"]

/-- Whether a character can start an identifier. The letters are those of ASCII only. -/
def identifierStart (c : Char) : Bool := c.isAlpha || c == '_' || c == '$'

/-- Whether a character can continue an identifier. -/
def identifierPart (c : Char) : Bool := identifierStart c || c.isDigit

/-- Whether a text can stand in generated code as the name of a variable. -/
def isIdentifier (name : String) : Bool :=
  match name.toList with
  | [] => false
  | c :: rest => identifierStart c && rest.all identifierPart && !reservedWords.contains name

end Stencil
