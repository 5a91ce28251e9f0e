import ResourceSync.Url.Ipv6

/-! Socket addresses: an IP address with a port. -/
namespace ResourceSync

inductive SocketAddress where
  | ipv4 (octets : List Nat) (port : Nat)
  | ipv6 (pieces : List Nat) (scope port : Nat)
deriving DecidableEq, Repr

namespace SocketAddress

/-- A number in base ten below a limit. Zeros in front do not matter. -/
def number? (limit : Nat) (s : List Char) : Option Nat :=
  if s.isEmpty || s.any fun c => !('0' ≤ c && c ≤ '9') then none
  else
    let n := s.foldl (fun n c => n * 10 + (c.toNat - '0'.toNat)) 0
    if n < limit then some n else none

def port? : List Char → Option Nat := number? 65536

/-- Four octets without zeros in front, and what follows them. -/
def octets? (s : List Char) : Option (List Nat × List Char) := do
  let (a, r) ← Ipv6.octet? s
  let (b, r) ← Ipv6.octet? (← Text.after? ['.'] r)
  let (c, r) ← Ipv6.octet? (← Text.after? ['.'] r)
  let (d, r) ← Ipv6.octet? (← Text.after? ['.'] r)
  return ([a, b, c, d], r)

/-- The pieces between the brackets and the number of the scope behind a percent sign. -/
def scoped? (inside : List Char) : Option (List Nat × Nat) :=
  match Text.cut? ['%'] inside with
  | none => (Ipv6.parse inside).toOption.map fun pieces => (pieces, 0)
  | some (address, scope) => do
    let pieces ← (Ipv6.parse address).toOption
    return (pieces, ← number? 4294967296 scope)

def parse? (s : String) : Option SocketAddress :=
  match s.toList with
  | '[' :: r => do
    let (inside, r) ← Text.cut? [']'] r
    let (pieces, scope) ← scoped? inside
    return .ipv6 pieces scope (← port? (← Text.after? [':'] r))
  | s => do
    let (octets, r) ← octets? s
    return .ipv4 octets (← port? (← Text.after? [':'] r))

def dotted (octets : List Nat) : String := ".".intercalate (octets.map toString)

/-- An address in pieces; one that stands for an IPv4 address shows it. -/
def piecesText : List Nat → String
  | [0, 0, 0, 0, 0, 65535, a, b] => "::ffff:" ++ dotted [a / 256, a % 256, b / 256, b % 256]
  | pieces => Ipv6.text pieces

def text : SocketAddress → String
  | ipv4 octets port => s!"{dotted octets}:{port}"
  | ipv6 pieces scope port =>
    let scope := if scope = 0 then "" else s!"%{scope}"
    s!"[{piecesText pieces}{scope}]:{port}"

example : (parse? "[::1]:09090").map text = some "[::1]:9090" := by decide +kernel

end SocketAddress

end ResourceSync
