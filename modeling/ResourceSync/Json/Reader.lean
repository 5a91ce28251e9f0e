import ResourceSync.Json.Basic
import ResourceSync.Text.Hexadecimal

/-! Reading a document from text: one step of a machine per character, so that the first fault
wins. A part that is well-formed and stands for no value is kept as such. -/
namespace ResourceSync.Json

def isDigit (c : Char) : Bool := '0' ≤ c && c ≤ '9'

def digitValue (c : Char) : Nat := c.toNat - '0'.toNat

/-- The leading digits of a numeral that fit 64 bits, and how many digits were left out after
them. -/
def leadingDigits (value : Nat) : List Char → Nat × Nat
  | [] => (value, 0)
  | c :: r =>
    let next := value * 10 + digitValue c
    if next < UInt64.size then leadingDigits next r else (value, r.length + 1)

/-- The double `significand * 10 ^ exponent`, with the significand and the power of ten each rounded
before the one operation that joins them; powers beyond the range are divided out in steps. -/
def scaled (significand : Nat) (exponent : Int) : Option Binary64 :=
  let f := Binary64.ofNat significand
  if 0 ≤ exponent then
    if 308 < exponent then if significand = 0 then some f else none
    else
      let product := f.mul (Binary64.ofNat (Nat.pow 10 exponent.toNat))
      if product.isFinite then some product else none
  else some (descend f (exponent.natAbs / 308 + 1) exponent.natAbs)
where
  descend (f : Binary64) (steps places : Nat) : Binary64 :=
    match steps with
    | 0 => f
    | steps + 1 =>
      if places ≤ 308 then f.div (Binary64.ofNat (Nat.pow 10 places))
      else if f.isZero then f
      else descend (f.div (Binary64.ofNat (Nat.pow 10 308))) steps (places - 308)

/-- The parts of a numeral that has been checked character by character. -/
structure Numeral where
  negative : Bool
  whole : List Char
  fraction : List Char
  exponentNegative : Bool
  exponent : List Char
  isWhole : Bool

/-- The digits behind a point, where there is one, and what follows them. -/
def fractionOf : List Char → List Char × List Char
  | '.' :: s => s.span isDigit
  | s => ([], s)

/-- The sign of a power of ten and its digits. -/
def exponentOf : List Char → Bool × List Char
  | '-' :: s => (true, s)
  | '+' :: s => (false, s)
  | s => (false, s)

def Numeral.ofUnsigned (negative : Bool) (s : List Char) : Numeral :=
  let whole := s.span isDigit
  let fraction := fractionOf whole.2
  let exponent := exponentOf (fraction.2.drop 1)
  ⟨negative, whole.1, fraction.1, exponent.1, exponent.2,
    fraction.1.isEmpty && fraction.2.isEmpty⟩

def Numeral.ofText : List Char → Numeral
  | '-' :: s => .ofUnsigned true s
  | s => .ofUnsigned false s

/-- The leading digits of a numeral that fit 64 bits, and the power of ten of the last of them as
far as its place tells it. Digits after them count in the whole part only, as places. -/
def Numeral.significand (n : Numeral) : Nat × Int :=
  let (lead, dropped) := leadingDigits 0 n.whole
  if dropped = 0 then
    let (lead, left) := leadingDigits lead n.fraction
    (lead, -(n.fraction.length - left : Nat))
  else (lead, dropped)

/-- The power of ten that is written behind a numeral. -/
def Numeral.power (n : Numeral) : Int :=
  let power : Int := n.exponent.foldl (fun v c => v * 10 + digitValue c) 0
  if n.exponentNegative then -power else power

/-- The double for a numeral without its sign; none, where it is out of range. -/
def Numeral.rounded (n : Numeral) : Option Binary64 :=
  let (significand, places) := n.significand
  let exponent := n.power + places
  if significand = 0 ∨ exponent < -100000 then some .zero else scaled significand exponent

/-- Whole numbers within 64 bits stay exact; the negative zero and all others become doubles. -/
def Numeral.value (n : Numeral) : Except TextError Json :=
  let (lead, dropped) := leadingDigits 0 n.whole
  if n.isWhole && dropped = 0 && !n.negative then .ok (.int lead)
  else if n.isWhole && dropped = 0 && 0 < lead && lead ≤ Nat.pow 2 63 then .ok (.int (-lead))
  else
    match n.rounded with
    | some x => .ok (.float (if n.negative then x.neg else x))
    | none => .error .numberOutOfRange

/-- The value of a numeral as a document. -/
def Numeral.document (n : Numeral) : Json :=
  match n.value with
  | .ok v => v
  | .error e => .unreadable e

/-- An open list or object: what it holds so far, last first, and for an object the fault of its
names. -/
inductive Frame where
  | list (done : List Json)
  | object (done : List (String × Json)) (name : String) (fault : Option TextError)

/-- Where inside a string the reader stands. -/
inductive Escape where
  | plain
  | backslash
  | hex (missing value : Nat)
  | lead (high : Nat)
  | leadBackslash (high : Nat)
  | leadHex (high missing value : Nat)

/-- Where inside a numeral the reader stands. -/
inductive NumeralPlace where
  | sign
  | zero
  | whole
  | point
  | fraction
  | mark
  | markSign
  | exponent

def NumeralPlace.isEnd : NumeralPlace → Bool
  | .zero | .whole | .fraction | .exponent => true
  | _ => false

/-- The place a numeral moves to on a character that belongs to it. -/
def NumeralPlace.next? (place : NumeralPlace) (c : Char) : Option NumeralPlace :=
  match place with
  | .sign => if c = '0' then some .zero else if isDigit c then some .whole else none
  | .zero => if c = '.' then some .point else if c = 'e' || c = 'E' then some .mark else none
  | .whole =>
    if isDigit c then some .whole
    else if c = '.' then some .point
    else if c = 'e' || c = 'E' then some .mark
    else none
  | .point => if isDigit c then some .fraction else none
  | .fraction =>
    if isDigit c then some .fraction else if c = 'e' || c = 'E' then some .mark else none
  | .mark =>
    if isDigit c then some .exponent else if c = '+' || c = '-' then some .markSign else none
  | .markSign => if isDigit c then some .exponent else none
  | .exponent => if isDigit c then some .exponent else none

/-- What the next character has to continue. -/
inductive Mode where
  | value
  | firstItem
  | nextItem
  | firstName
  | nextName
  | colon
  | text (isName : Bool) (place : Escape) (done : List Char) (fault : Option TextError)
  | word (rest : List Char) (value : Json)
  | numeral (place : NumeralPlace) (done : List Char)
  | after (value : Json)

structure Reader where
  mode : Mode
  stack : List Frame

namespace Reader

def isSpace (c : Char) : Bool := c = ' ' || c = '\n' || c = '\t' || c = '\r'

/-- Lists and objects nest less deep than this. -/
def depthLimit : Nat := 128

/-- A list or an object that is complete, inside of those that are still open. -/
def closeNested (stack : List Frame) (fault : Option TextError) (v : Json) : Reader :=
  let fault := if stack.length + 1 < depthLimit then fault else some .tooDeep
  ⟨.after ((fault.map Json.unreadable).getD v), stack⟩

/-- The first character of a value. -/
def start (stack : List Frame) (c : Char) : Except TextError Reader :=
  if c = '"' then .ok ⟨.text false .plain [] none, stack⟩
  else if c = '[' then .ok ⟨.firstItem, .list [] :: stack⟩
  else if c = '\x7b' then .ok ⟨.firstName, .object [] "" none :: stack⟩
  else if c = '-' then .ok ⟨.numeral .sign ['-'], stack⟩
  else if c = '0' then .ok ⟨.numeral .zero ['0'], stack⟩
  else if isDigit c then .ok ⟨.numeral .whole [c], stack⟩
  else if c = 't' then .ok ⟨.word ['r', 'u', 'e'] (.bool true), stack⟩
  else if c = 'f' then .ok ⟨.word ['a', 'l', 's', 'e'] (.bool false), stack⟩
  else if c = 'n' then .ok ⟨.word ['u', 'l', 'l'] .null, stack⟩
  else .error .expectedValue

/-- A character after a whole value, which closes or continues the innermost list or object. -/
def resume (v : Json) (stack : List Frame) (c : Char) : Except TextError Reader :=
  match stack with
  | [] => .error .trailingCharacters
  | .list done :: stack =>
    if c = ',' then .ok ⟨.nextItem, .list (v :: done) :: stack⟩
    else if c = ']' then .ok (closeNested stack none (.arr (v :: done).reverse))
    else .error .expectedListEnd
  | .object done name fault :: stack =>
    if c = ',' then .ok ⟨.nextName, .object ((name, v) :: done) "" fault :: stack⟩
    else if c = '\x7d' then .ok (closeNested stack fault (.obj ((name, v) :: done).reverse))
    else .error .expectedObjectEnd

/-- The string is complete: a name waits for its colon, a value is done. -/
def closeText (isName : Bool) (done : List Char) (fault : Option TextError) (stack : List Frame) :
    Reader :=
  let s := String.ofList done.reverse
  match isName, stack with
  | true, .object ms _ before :: stack => ⟨.colon, .object ms s (before.or fault) :: stack⟩
  | _, _ => ⟨.after ((fault.map Json.unreadable).getD (.str s)), stack⟩

/-- The character that a one-letter escape stands for. -/
def unescape? (c : Char) : Option Char :=
  if c = '"' || c = '\\' || c = '/' then some c
  else if c = 'b' then some '\x08'
  else if c = 'f' then some '\x0c'
  else if c = 'n' then some '\n'
  else if c = 'r' then some '\r'
  else if c = 't' then some '\t'
  else none

/-- A character that stands in a string by itself. -/
def inPlain (isName : Bool) (done : List Char) (fault : Option TextError) (stack : List Frame)
    (c : Char) : Except TextError Reader :=
  if c = '"' then .ok (closeText isName done fault stack)
  else if c = '\\' then .ok ⟨.text isName .backslash done fault, stack⟩
  else if c.toNat < 32 then .error .controlCharacter
  else .ok ⟨.text isName .plain (c :: done) fault, stack⟩

/-- The character after a backslash. -/
def inEscape (isName : Bool) (done : List Char) (fault : Option TextError) (stack : List Frame)
    (c : Char) : Except TextError Reader :=
  if c = 'u' then .ok ⟨.text isName (.hex 4 0) done fault, stack⟩
  else
    match unescape? c with
    | some e => .ok ⟨.text isName .plain (e :: done) fault, stack⟩
    | none => .error .invalidEscape

/-- A character inside a string. Code points above 16 bits come as two escaped halves; a half by
itself stands for nothing. -/
def inText (isName : Bool) (place : Escape) (done : List Char) (fault : Option TextError)
    (stack : List Frame) (c : Char) : Except TextError Reader :=
  let go (place : Escape) (done : List Char) (fault : Option TextError) : Except TextError Reader :=
    .ok ⟨.text isName place done fault, stack⟩
  match place with
  | .plain => inPlain isName done fault stack c
  | .backslash => inEscape isName done fault stack c
  | .hex missing value =>
    match Text.hexValue? c with
    | none => .error .invalidEscape
    | some d =>
      let value := value * 16 + d
      if 1 < missing then go (.hex (missing - 1) value) done fault
      else if 0xDC00 ≤ value && value ≤ 0xDFFF then go .plain done (fault.or (some .loneSurrogate))
      else if 0xD800 ≤ value && value ≤ 0xDBFF then go (.lead value) done fault
      else go .plain (Char.ofNat value :: done) fault
  | .lead high =>
    if c = '\\' then go (.leadBackslash high) done fault
    else inPlain isName done (fault.or (some .endOfHexEscape)) stack c
  | .leadBackslash high =>
    if c = 'u' then go (.leadHex high 4 0) done fault
    else inEscape isName done (fault.or (some .endOfHexEscape)) stack c
  | .leadHex high missing value =>
    match Text.hexValue? c with
    | none => .error .invalidEscape
    | some d =>
      let value := value * 16 + d
      if 1 < missing then go (.leadHex high (missing - 1) value) done fault
      else if 0xDC00 ≤ value && value ≤ 0xDFFF then
        let point := 0x10000 + (high - 0xD800) * 0x400 + (value - 0xDC00)
        go .plain (Char.ofNat point :: done) fault
      else go .plain done (fault.or (some .loneSurrogate))

/-- A character between values. -/
def between (v : Json) (stack : List Frame) (c : Char) : Except TextError Reader :=
  if isSpace c then .ok ⟨.after v, stack⟩ else resume v stack c

def inNumeral (place : NumeralPlace) (done : List Char) (stack : List Frame) (c : Char) :
    Except TextError Reader :=
  match NumeralPlace.next? place c with
  | some place => .ok ⟨.numeral place (c :: done), stack⟩
  | none =>
    match place with
    | .zero => if isDigit c then .error .invalidNumber else finished
    | place => if place.isEnd then finished else .error .invalidNumber
where
  finished : Except TextError Reader := between (Numeral.ofText done.reverse).document stack c

def step (r : Reader) (c : Char) : Except TextError Reader :=
  match r.mode with
  | .value => if isSpace c then .ok r else start r.stack c
  | .firstItem =>
    if isSpace c then .ok r
    else if c = ']' then .ok (closeNested (r.stack.drop 1) none (.arr []))
    else start r.stack c
  | .nextItem =>
    if isSpace c then .ok r else if c = ']' then .error .trailingComma else start r.stack c
  | .firstName =>
    if isSpace c then .ok r
    else if c = '\x7d' then .ok (closeNested (r.stack.drop 1) none (.obj []))
    else if c = '"' then .ok ⟨.text true .plain [] none, r.stack⟩
    else .error .nameNotString
  | .nextName =>
    if isSpace c then .ok r
    else if c = '\x7d' then .error .trailingComma
    else if c = '"' then .ok ⟨.text true .plain [] none, r.stack⟩
    else .error .nameNotString
  | .colon =>
    if isSpace c then .ok r else if c = ':' then .ok ⟨.value, r.stack⟩ else .error .expectedColon
  | .text isName place done fault => inText isName place done fault r.stack c
  | .word rest v =>
    match rest with
    | [] => between v r.stack c
    | [w] => if c = w then .ok ⟨.after v, r.stack⟩ else .error .expectedWord
    | w :: ws => if c = w then .ok ⟨.word ws v, r.stack⟩ else .error .expectedWord
  | .numeral place done => inNumeral place done r.stack c
  | .after v => between v r.stack c

/-- What the end of the text means for a value that is whole. -/
def closed (v : Json) : List Frame → Except TextError Json
  | [] => .ok v
  | .list _ :: _ => .error .endInList
  | .object _ _ _ :: _ => .error .endInObject

def finish (r : Reader) : Except TextError Json :=
  match r.mode with
  | .after v => closed v r.stack
  | .numeral place done =>
    if place.isEnd then closed (Numeral.ofText done.reverse).document r.stack
    else .error .endInValue
  | .firstItem => .error .endInList
  | .firstName | .colon => .error .endInObject
  | .text _ _ _ _ => .error .endInString
  | .value | .nextItem | .nextName | .word _ _ => .error .endInValue

end Reader

/-- The document that a text holds, with the members of objects as they stand in it. Parts that
stand for no value are a fault only to who reads them. -/
def ofText (s : String) : Except TextError Json := do
  (← s.toList.foldlM Reader.step ⟨.value, []⟩).finish

end ResourceSync.Json
