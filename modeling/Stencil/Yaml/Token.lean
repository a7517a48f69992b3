/-! Tokens of a YAML text. -/

namespace Stencil.Yaml
set_option autoImplicit false

/-- A tag as written: a handle that stands for the start of the tag, and the rest. A tag that is
written in full has an empty handle. -/
structure TagName where
  handle : String
  suffix : List UInt8
deriving DecidableEq, Repr

/-- What a YAML text is made of. The start and the end of a block collection are tokens although they
are seen by indentation only, and so is the start of a key that has no indicator. -/
inductive Token where
  | version (major minor : Nat)
  | tagHandle (handle : String) (start : List UInt8)
  | documentStart
  | documentEnd
  | blockSequenceStart
  | blockMappingStart
  | blockEnd
  | flowSequenceStart
  | flowSequenceEnd
  | flowMappingStart
  | flowMappingEnd
  | blockEntry
  | flowEntry
  | key
  | value
  | alias (name : String)
  | anchor (name : String)
  | tag (name : TagName)
  | scalar (text : String) (plain : Bool)
  | streamEnd
deriving DecidableEq, Repr

end Stencil.Yaml
