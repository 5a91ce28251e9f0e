import ResourceSync.Json.Basic
import ResourceSync.Text.Quoted

/-! Why a document does not have the shape that is wanted of it. -/
namespace ResourceSync

/-- The fault of a document that is read as a typed value. -/
inductive DecodeError where
  | wrongType (found : Json) (wanted : String)
  | bareVariant
  | outOfRange (n : Int) (wanted : String)
  | severalKeys
  | missingField (name : String)
  | duplicateField (name : String)
  | unknownVariant (name : String) (known : List String)
  | wrongLength (length : Nat) (wanted : String)
  | malformed (reason : String)

namespace DecodeError

/-- What a document is, in the words of a diagnostic. -/
def describe : Json → String
  | .null | .unreadable _ => "null"
  | .bool b => s!"boolean \x60{b}\x60"
  | .int n => s!"integer \x60{n}\x60"
  | .float x => s!"floating point \x60{x.compact}\x60"
  | .str s => "string " ++ Text.quoted s
  | .arr _ => "sequence"
  | .obj _ => "map"

/-- The names an enumeration knows; two are joined by a word, more are listed. -/
def alternatives (known : List String) : String :=
  match known.map fun k => s!"\x60{k}\x60" with
  | [] => "there are no variants"
  | [a] => "expected " ++ a
  | [a, b] => s!"expected {a} or {b}"
  | names => "expected one of " ++ ", ".intercalate names

def message : DecodeError → String
  | .wrongType (.unreadable e) _ => e.message
  | .wrongType found wanted => s!"invalid type: {describe found}, expected {wanted}"
  | .bareVariant => "invalid type: unit variant, expected newtype variant"
  | .outOfRange n wanted => s!"invalid value: integer \x60{n}\x60, expected {wanted}"
  | .severalKeys => "invalid value: map, expected map with a single key"
  | .missingField name => s!"missing field \x60{name}\x60"
  | .duplicateField name => s!"duplicate field \x60{name}\x60"
  | .unknownVariant name known => s!"unknown variant \x60{name}\x60, {alternatives known}"
  | .wrongLength length wanted => s!"invalid length {length}, expected {wanted}"
  | .malformed reason => reason

end DecodeError

/-- The outcome of reading a document as a typed value. -/
abbrev Decoded (α : Type) := Except DecodeError α

end ResourceSync
