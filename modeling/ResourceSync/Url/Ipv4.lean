import ResourceSync.Text.Cut
import ResourceSync.Text.Hexadecimal
import ResourceSync.Url.Error

/-! IPv4 addresses in the notation of URLs: up to four numbers in base ten, eight or sixteen. -/
namespace ResourceSync.Ipv4

def digitIn? (base : Nat) (c : Char) : Option Nat := (Text.hexValue? c).filter (· < base)

/-- The base that the start of a number announces, and its digits. -/
def baseOf : List Char → Nat × List Char
  | '0' :: 'x' :: r => (16, r)
  | '0' :: 'X' :: r => (16, r)
  | '0' :: c :: r => (8, c :: r)
  | s => (10, s)

/-- The value of a part. A base without digits after it announces zero. -/
def number? (s : List Char) : Option Nat :=
  if s.isEmpty then none
  else
    let (base, digits) := baseOf s
    (digits.mapM (digitIn? base)).map fun ds => ds.foldl (fun n d => n * base + d) 0

/-- The parts between the dots, without an empty one at the end. -/
def parts (domain : List Char) : List (List Char) :=
  let ps := Text.splitOn '.' domain
  if 1 < ps.length && ps.getLast? == some [] then ps.dropLast else ps

/-- Whether the last part of a domain reads as a number, so that the whole is an address. -/
def endsInNumber (domain : List Char) : Bool :=
  match (parts domain).getLast? with
  | none => false
  | some last =>
    (!last.isEmpty && last.all fun c => '0' ≤ c && c ≤ '9') || (number? last).isSome

/-- One past the largest number of a 32-bit word. -/
def wordLimit : Nat := 4294967296

/-- The address that a domain denotes: the last number fills the octets that the others leave. -/
def parse (domain : List Char) : Except UrlError Nat :=
  let ps := parts domain
  if 4 < ps.length then .error .invalidIpv4
  else
    match ps.mapM number? with
    | none => .error .invalidIpv4
    | some numbers =>
      let leading := numbers.dropLast
      let last := numbers.getLast?.getD 0
      if wordLimit / Nat.pow 256 leading.length ≤ last || leading.any (255 < ·) then
        .error .invalidIpv4
      else .ok (leading.foldl (fun n d => n * 256 + d) 0 * Nat.pow 256 (4 - leading.length) + last)

def text (address : Nat) : String :=
  ".".intercalate ([3, 2, 1, 0].map fun i => toString (address / Nat.pow 256 i % 256))

end ResourceSync.Ipv4
