/-! Tags in full.

A tag is a string of bytes. Escapes write its bytes one by one, and together they need not be text.

* `asciiBytes`: the bytes of a text that has ASCII characters only.
* `Tag`: what a tag says about the value after it.
* `Tag.ofBytes`: the tag of given bytes. -/

namespace Stencil.Yaml
set_option autoImplicit false

/-- The bytes of ASCII characters. -/
def asciiBytes (cs : List Char) : List UInt8 := cs.map fun c => UInt8.ofNat c.toNat

/-- What a tag says about the value after it. -/
inductive Tag where
  | boolean
  | integer
  | float
  | null
  /-- A tag of the document's own, which starts with an exclamation mark. It has a name if the bytes
  after the mark are text. -/
  | own (named : Bool)
  | other
deriving DecidableEq, Repr

namespace Tag

/-- What the tags of the standard types start with. -/
def standardStart : List UInt8 := asciiBytes "tag:yaml.org,2002:".toList

/-- The bytes of the tag of a standard type. -/
def standardBytes (name : String) : List UInt8 := standardStart ++ asciiBytes name.toList

/-- Whether bytes are valid UTF-8. -/
def isText (bytes : List UInt8) : Bool := (String.fromUTF8? (ByteArray.mk bytes.toArray)).isSome

/-- The tag of given bytes. -/
def ofBytes (bytes : List UInt8) : Tag :=
  if bytes == standardBytes "bool" then .boolean
  else if bytes == standardBytes "int" then .integer
  else if bytes == standardBytes "float" then .float
  else if bytes == standardBytes "null" then .null
  else
    match bytes with
    | 0x21 :: name => .own (isText name)
    | _ => .other

end Tag

end Stencil.Yaml
