import ResourceSync.Text.Hexadecimal

/-! Percent notation: octets that cannot stand in a text are written as two hexadecimal digits. -/
namespace ResourceSync.Percent

def upperHex (n : Nat) : Char := (Nat.digitChar n).toUpper

def encodeOctet (b : UInt8) : List Char :=
  ['%', upperHex (b.toNat / 16), upperHex (b.toNat % 16)]

/-- ASCII characters that are written in percent notation. -/
abbrev EscapeSet := Char → Bool

/-- Characters beyond ASCII are always written as their octets. -/
def encodeChar (escaped : EscapeSet) (c : Char) : List Char :=
  if c.toNat < 128 && !escaped c then [c] else (String.utf8EncodeChar c).flatMap encodeOctet

def encode (escaped : EscapeSet) (s : List Char) : List Char := s.flatMap (encodeChar escaped)

def controls : EscapeSet := fun c => c.toNat < 32 || c.toNat = 127

def query : EscapeSet := fun c => controls c || [' ', '"', '#', '<', '>'].contains c

def specialQuery : EscapeSet := fun c => query c || c = '\x27'

def fragment : EscapeSet := fun c => controls c || [' ', '"', '<', '>', '\x60'].contains c

def path : EscapeSet := fun c => fragment c || ['#', '?', '\x7b', '\x7d'].contains c

def pathSegment : EscapeSet := fun c => path c || ['/', '%'].contains c

def specialPathSegment : EscapeSet := fun c => pathSegment c || c = '\\'

def userinfo : EscapeSet := fun c =>
  path c || ['/', ':', ';', '=', '@', '[', '\\', ']', '^', '|'].contains c

/-- The octets that a text stands for. A percent sign without two digits stands for itself. -/
def decode : List Char → List UInt8
  | [] => []
  | '%' :: h :: l :: r =>
    match Text.hexValue? h, Text.hexValue? l with
    | some h, some l => UInt8.ofNat (h * 16 + l) :: decode r
    | _, _ => String.utf8EncodeChar '%' ++ decode (h :: l :: r)
  | c :: r => String.utf8EncodeChar c ++ decode r

end ResourceSync.Percent
