import ResourceSync.Text.Quoted

/-! Why a text is no timestamp. -/
namespace ResourceSync

/-- The numbers in the text of a timestamp. -/
inductive TimestampPart where
  | year
  /-- A year with a sign, which takes more digits. -/
  | signedYear
  | month
  | day
  | hour
  | minute
  | second
  | offsetHours
  | offsetMinutes
  | offsetSeconds
deriving DecidableEq, Repr

namespace TimestampPart

/-- How many digits the number has. -/
def digits : TimestampPart → Nat
  | year => 4
  | signedYear => 6
  | _ => 2

/-- The bounds of the number. -/
def bounds : TimestampPart → Int × Int
  | year | signedYear => (-9999, 9999)
  | month => (1, 12)
  | day => (1, 31)
  | hour => (0, 23)
  | minute => (0, 59)
  | second => (0, 60)
  | offsetHours => (-25, 25)
  | offsetMinutes | offsetSeconds => (-59, 59)

def name : TimestampPart → String
  | year | signedYear => "year"
  | month => "month"
  | day => "day"
  | hour => "hour"
  | minute => "minute"
  | second => "second"
  | offsetHours => "time zone offset hours"
  | offsetMinutes => "time zone offset minutes"
  | offsetSeconds => "time zone offset seconds"

/-- What is said first of any fault of the number. -/
def context : TimestampPart → String
  | offsetHours => "failed to parse hours in UTC numeric offset: "
  | offsetMinutes => "failed to parse minutes in UTC numeric offset: "
  | offsetSeconds => "failed to parse seconds in UTC numeric offset: "
  | _ => ""

/-- What is wanted where the text ends too soon. -/
def wanted : TimestampPart → String
  | year => "four digit year (or leading sign for six digit year)"
  | signedYear => "six digit year (because of a leading sign)"
  | offsetHours => "two digit hour after sign"
  | offsetMinutes => "two digit minute after hours"
  | offsetSeconds => "two digit second after minutes"
  | p => "two digit " ++ p.name

/-- What failed where the digits are not as they should be. -/
def attempt : TimestampPart → String
  | year => "failed to parse four digit integer as year"
  | signedYear => "failed to parse six digit integer as year"
  | offsetHours => "failed to parse hours (requires a two digit integer)"
  | offsetMinutes => "failed to parse minutes (requires a two digit integer)"
  | offsetSeconds => "failed to parse seconds (requires a two digit integer)"
  | p => "failed to parse two digit integer as " ++ p.name

end TimestampPart

/-- What an annotation in brackets consists of. -/
inductive AnnotationPart where
  | name
  | zoneEnd
  | key
  | equalsSign
  | value
  | pairEnd
deriving DecidableEq, Repr

namespace AnnotationPart

/-- What is wanted where the text ends. -/
def atEnd : AnnotationPart → String
  | name => "the start of an RFC 9557 annotation or IANA time zone component name"
  | zoneEnd => "an \x60]\x60 after parsing an RFC 9557 time zone annotation"
  | key => "the start of an RFC 9557 annotation key"
  | equalsSign => "an \x60=\x60 after parsing an RFC 9557 annotation key"
  | value => "the start of an RFC 9557 annotation value"
  | pairEnd => "an \x60]\x60 after parsing an RFC 9557 annotation key and value"

/-- What is wanted where something else stands. -/
def atOctet : AnnotationPart → String
  | name => "ASCII alphabetic byte (or underscore or period) at the start of an RFC 9557 " ++
      "annotation or time zone component name"
  | key => "lowercase alphabetic byte (or underscore) at the start of an RFC 9557 annotation key"
  | value => "alphanumeric ASCII byte at the start of an RFC 9557 annotation value"
  | p => p.atEnd

end AnnotationPart

inductive TimestampError where
  | missing (part : TimestampPart)
  | noDigit (part : TimestampPart) (found : UInt8)
  | outOfRange (part : TimestampPart)
  | negativeYearZero
  | expectedHyphen (found : Option UInt8)
  | needlessHyphen
  | noSuchDay (year : Int) (month last : Nat)
  | noFractionDigits
  | fineZoneOffset
  | badTag (wanted : AnnotationPart) (found : Option UInt8)
  | unknownCritical
  /-- What is left of the text after all that could be read. -/
  | leftOver (read rest : String)
  | noTime
  | noOffset
  | offsetOutOfRange
  | outOfBounds (offset : String)
deriving DecidableEq, Repr

namespace TimestampError

def octetHex (b : UInt8) : List Char :=
  ['\\', 'x'] ++ [Nat.digitChar (b.toNat / 16), Nat.digitChar (b.toNat % 16)]

/-- An octet of ASCII as messages show it. -/
def shownAscii (b : UInt8) : List Char :=
  match Char.ofNat b.toNat with
  | '\t' => ['\\', 't']
  | '\n' => ['\\', 'n']
  | '\r' => ['\\', 'r']
  | '\x27' => ['\\', '\x27']
  | '"' => ['\\', '"']
  | '\\' => ['\\', '\\']
  | c => if 32 ≤ b.toNat ∧ b.toNat < 127 then [c] else octetHex b

/-- A single octet, in upper case where it is shown by its number. -/
def shownOctet (b : UInt8) : String :=
  match shownAscii b with
  | ['\\', 'x', h, l] => String.ofList ['\\', 'x', h.toUpper, l.toUpper]
  | s => String.ofList s

/-- The rest of a text in quotes. -/
def quotedRest (s : String) : String :=
  let shown := fun c : Char =>
    if c = '\x00' then ['\\', '0']
    else if c.toNat < 128 then shownAscii (UInt8.ofNat c.toNat)
    else Text.shown c
  String.ofList ('"' :: s.toList.flatMap shown ++ ['"'])

def range (name : String) (low high : Int) : String :=
  s!"parameter '{name}' is not in the required range of {low}..={high}"

/-- A number in `places` digits at least. -/
def places (n places : Nat) : String :=
  let digits := Nat.toDigits 10 n
  String.ofList (List.replicate (places - digits.length) '0' ++ digits)

def message : TimestampError → String
  | missing p => s!"{p.context}expected {p.wanted}, but found end of input"
  | noDigit p b =>
    s!"{p.context}{p.attempt}: invalid digit, expected 0-9 but got {shownOctet b}"
  | outOfRange p => s!"{p.context}{p.attempt}: {range p.name p.bounds.1 p.bounds.2}"
  | negativeYearZero =>
    "year zero must be written without a sign or a positive sign, but not a negative sign"
  | expectedHyphen none => "expected \x60-\x60 separator, but found end of input"
  | expectedHyphen (some b) =>
    s!"expected \x60-\x60 separator, but found \x60{shownOctet b}\x60"
  | needlessHyphen => "expected no separator since none was found after the year, but found a " ++
      "\x60-\x60 separator"
  | noSuchDay year month last =>
    let sign := if year < 0 then "-" else ""
    let ofMonth := s!"{sign}{places year.natAbs (4 - sign.length)}-{places month 2}"
    s!"parameter 'day' for \x60{ofMonth}\x60 is invalid, must be in range \x601..={last}\x60"
  | noFractionDigits =>
    "found decimal after seconds component, but did not find any digits after decimal"
  | fineZoneOffset => "subminute precision for UTC numeric offset is not enabled in this " ++
      "context (must provide only integral minutes)"
  | badTag wanted none => s!"expected {wanted.atEnd}, but found end of input instead"
  | badTag wanted (some b) =>
    s!"expected {wanted.atOctet}, but found \x60{shownOctet b}\x60 instead"
  | unknownCritical =>
    "found unsupported RFC 9557 annotation with the critical flag (\x60!\x60) set"
  | leftOver read rest =>
    s!"parsed value '{read}', but unparsed input {quotedRest rest} remains " ++
      "(expected no unparsed input)"
  | noTime => "failed to find time component, which is required for parsing a timestamp"
  | noOffset => "failed to find offset component, which is required for parsing a timestamp"
  | offsetOutOfRange => "offset successfully parsed, but failed to convert to numeric " ++
      "\x60jiff::tz::Offset\x60: due to precision loss from fractional second: " ++
      range "time zone offset total seconds" (-93599) 93599
  | outOfBounds offset =>
    s!"converting datetime with time zone offset \x60{offset}\x60 to timestamp overflowed: " ++
      range "Unix timestamp seconds" (-377705023201) 253402207200

end TimestampError

end ResourceSync
