import ResourceSync.Url.Ipv4

/-! IPv6 addresses: eight pieces of 16 bits, with one run of zero pieces left out. -/
namespace ResourceSync.Ipv6

/-- The hexadecimal digits at the start, at most four of them, as a number; and what follows. -/
def piece (s : List Char) : Nat × Nat × List Char := go 4 0 s
where
  go (room : Nat) (value : Nat) : List Char → Nat × Nat × List Char
    | [] => (4 - room, value, [])
    | c :: r =>
      match room, Ipv4.digitIn? 16 c with
      | room + 1, some d => go room (value * 16 + d) r
      | _, _ => (4 - room, value, c :: r)

/-- An octet in base ten without leading zeros, and what follows. -/
def octet? (s : List Char) : Option (Nat × List Char) :=
  let digits := s.takeWhile fun c => '0' ≤ c && c ≤ '9'
  let value := digits.foldl (fun n c => n * 10 + (c.toNat - '0'.toNat)) 0
  if digits.isEmpty || (1 < digits.length && digits.head? == some '0') || 255 < value then none
  else some (value, s.drop digits.length)

/-- Four octets between dots, which fill two pieces. -/
def embedded? (s : List Char) : Option (List Nat) := do
  let (a, r) ← octet? s
  let (b, r) ← octet? (← Text.after? ['.'] r)
  let (c, r) ← octet? (← Text.after? ['.'] r)
  let (d, r) ← octet? (← Text.after? ['.'] r)
  if r.isEmpty then return [a * 256 + b, c * 256 + d] else none

/-- The pieces before and after the place where zeros are left out, if there is one. -/
structure Pieces where
  before : List Nat
  after : Option (List Nat)

/-- How many of the eight places are taken; zeros left out take at least one. -/
def Pieces.count (p : Pieces) : Nat :=
  match p.after with
  | none => p.before.length
  | some tail => p.before.length + 1 + tail.length

def Pieces.add (p : Pieces) (ns : List Nat) : Pieces :=
  match p.after with
  | none => { p with before := p.before ++ ns }
  | some tail => { p with after := some (tail ++ ns) }

/-- Reads the pieces; every step takes a piece or the mark of the zeros left out. -/
def readPieces (steps : Nat) (p : Pieces) (s : List Char) : Option Pieces :=
  match steps with
  | 0 => none
  | steps + 1 =>
    if s.isEmpty then some p
    else if 8 ≤ p.count then none
    else
      match s with
      | ':' :: r => if p.after.isSome then none else readPieces steps { p with after := some [] } r
      | s =>
        match piece s with
        | (0, _, _) => none
        | (_, value, []) => some (p.add [value])
        | (_, _, [':']) => none
        | (_, value, ':' :: r) => readPieces steps (p.add [value]) r
        | (_, _, '.' :: _) => if 6 < p.count then none else (embedded? s).map p.add
        | _ => none

/-- The eight pieces that a text between brackets denotes. -/
def parse (s : List Char) : Except UrlError (List Nat) :=
  let start :=
    match s with
    | ':' :: ':' :: r => readPieces 10 ⟨[], some []⟩ r
    | ':' :: _ => none
    | [] => none
    | s => readPieces 10 ⟨[], none⟩ s
  match start with
  | none => .error .invalidIpv6
  | some p =>
    match p.after with
    | none => if p.before.length = 8 then .ok p.before else .error .invalidIpv6
    | some tail =>
      let zeros := List.replicate (8 - p.before.length - tail.length) 0
      .ok (p.before ++ zeros ++ tail)

/-- The length of the run of zeros at the start. -/
def zeros (pieces : List Nat) : Nat := (pieces.takeWhile (· = 0)).length

/-- Where the first of the longest runs of at least two zeros starts, and its length. -/
def longestZeros (pieces : List Nat) : Option (Nat × Nat) :=
  (List.range pieces.length).foldl (fun best i =>
    let n := zeros (pieces.drop i)
    if 1 < n && (best.map (·.2)).getD 1 < n then some (i, n) else best) none

def hex (pieces : List Nat) : String :=
  ":".intercalate (pieces.map fun n => String.ofList (Nat.toDigits 16 n))

def text (pieces : List Nat) : String :=
  match longestZeros pieces with
  | none => hex pieces
  | some (start, length) => hex (pieces.take start) ++ "::" ++ hex (pieces.drop (start + length))

end ResourceSync.Ipv6
