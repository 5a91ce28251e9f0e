import ResourceSync.Url.Basic
import ResourceSync.Url.Domain

/-! The normal form of an absolute URL, read from a text. -/
namespace ResourceSync.Url

def isLetter (c : Char) : Bool := ('a' ≤ c && c ≤ 'z') || ('A' ≤ c && c ≤ 'Z')

def isDigit (c : Char) : Bool := '0' ≤ c && c ≤ '9'

/-- The text without blanks and controls at its ends, and without tabs and line ends anywhere. -/
def clean (s : List Char) : List Char :=
  let isOuter := fun c : Char => c.toNat ≤ 32
  let inner := ((s.dropWhile isOuter).reverse.dropWhile isOuter).reverse
  inner.filter fun c => c != '\t' && c != '\n' && c != '\r'

/-- The scheme in lower case, and what follows its colon. -/
def cutScheme? (s : List Char) : Option (String × List Char) :=
  if (s.head?.map isLetter).getD false then
    let name := s.takeWhile fun c => isLetter c || isDigit c || c = '+' || c = '-' || c = '.'
    match s.drop name.length with
    | ':' :: rest => some ((String.ofList name).toLower, rest)
    | _ => none
  else none

/-- Whether a character ends the authority. -/
def endsAuthority (special : Bool) (c : Char) : Bool :=
  c = '/' || c = '?' || c = '#' || (special && c = '\\')

/-- The name of the user and the password, in percent notation. -/
def parseUser (s : List Char) : String × String :=
  let encode := fun t => String.ofList (Percent.encode Percent.userinfo t)
  match Text.cut? [':'] s with
  | none => (encode s, "")
  | some (name, password) => (encode name, encode password)

/-- The host that a text of a special scheme denotes. -/
def parseHost (s : List Char) : Except UrlError Host := do
  if s.head? == some '[' then
    if s.getLast? == some ']' then return .ipv6 (← Ipv6.parse (s.drop 1).dropLast)
    else throw .invalidIpv6
  let some decoded := String.fromUTF8? (Percent.decode s).toByteArray
    | throw .invalidDomainName
  let some domain := Domain.toAscii? decoded.toList | throw .invalidDomainName
  if domain.isEmpty then throw .emptyHost
  if Ipv4.endsInNumber domain then return .ipv4 (← Ipv4.parse domain)
  return .domain (String.ofList domain)

/-- The host of a scheme without rules of its own. -/
def parsePlainHost (s : List Char) : Except UrlError Host := do
  if s.head? == some '[' then
    if s.getLast? == some ']' then return .ipv6 (← Ipv6.parse (s.drop 1).dropLast)
    else throw .invalidIpv6
  if s.any Domain.isReserved then throw .invalidHostCharacter
  return .domain (String.ofList (Percent.encode Percent.controls s))

/-- What stands before the colon of the port, brackets being passed over. -/
def hostLength (inBrackets : Bool) : List Char → Nat
  | [] => 0
  | c :: r =>
    if c = ':' && !inBrackets then 0
    else hostLength (if c = '[' then true else if c = ']' then false else inBrackets) r + 1

/-- The digits of a port, and what follows them. The port that the scheme implies is left out. -/
def parsePort (scheme : String) (s : List Char) : Except UrlError (Option Nat × List Char) := do
  let digits := s.takeWhile isDigit
  let rest := s.drop digits.length
  let port := digits.foldl (fun n c => n * 10 + (c.toNat - '0'.toNat)) 0
  if 65535 < port then throw .invalidPort
  if (rest.head?.map fun c => !endsAuthority true c).getD false then throw .invalidPort
  if digits.isEmpty || defaultPort? scheme == some port then return (none, rest)
  return (some port, rest)

/-- The authority at the start of a text, and what follows it. -/
def parseAuthority (scheme : String) (s : List Char) : Except UrlError (Authority × List Char) := do
  let special := isSpecial scheme
  let all := s.takeWhile fun c => !endsAuthority special c
  let behind := s.drop all.length
  let (user, hostAndPort) := (Text.cutLast? '@' all).getD ([], all)
  let hasUser := user.length < all.length && all.length ≠ hostAndPort.length
  if hasUser && user.isEmpty && hostAndPort.isEmpty && !behind.isEmpty then throw .emptyHost
  let (username, password) := parseUser user
  let hostText := hostAndPort.take (hostLength false hostAndPort)
  let portText := hostAndPort.drop hostText.length
  if special && hostText.isEmpty then throw .emptyHost
  let host ← if special then parseHost hostText else parsePlainHost hostText
  if hostText.isEmpty && portText.head? == some ':' then throw .emptyHost
  let (port, rest) ←
    match portText with
    | ':' :: portText => parsePort scheme (portText ++ behind)
    | _ => pure (none, behind)
  if hostText.isEmpty && !(username.isEmpty && password.isEmpty) then throw .emptyHost
  return (⟨username, password, host, port⟩, rest)

/-- The two segments that stand for a place in the path, in every spelling. -/
def isDot (s : String) : Bool := s = "." || s.toLower = "%2e"

def isDoubleDot (s : String) : Bool := ["..", "%2e.", ".%2e", "%2e%2e"].contains s.toLower

/-- Whether a text names a drive: a letter, and a colon or a bar. -/
def isDrive (s : List Char) : Bool :=
  match s with
  | [letter, mark] => isLetter letter && (mark = ':' || mark = '|')
  | _ => false

/-- The segments above the last one. In a file path nothing is above a drive. -/
def parentSegments (isFile : Bool) (done : List String) : List String :=
  if isFile && (done.getLast?.map fun s => isDrive s.toList).getD false then done else done.dropLast

/-- Puts one more segment to a path whose dot segments are resolved; `isLast` tells that no slash
follows it. -/
def resolveSegment (isFile : Bool) (done : List String) (segment : String) (isLast : Bool) :
    List String :=
  let closed := fun ss => if isLast then ss ++ [""] else ss
  if isDoubleDot segment then closed (parentSegments isFile done)
  else if isDot segment then closed done
  else done ++ [segment]

/-- The resolved segments of a path, and what follows the path. `buffer` holds the characters of the
segment so far, last first. -/
def readSegments (scheme : String) (done : List String) (buffer : List Char) :
    List Char → List String × List Char
  | [] => (resolveSegment (scheme = "file") done (segment buffer) true, [])
  | c :: r =>
    if c = '/' || (isSpecial scheme && c = '\\') then
      readSegments scheme (resolveSegment (scheme = "file") done (segment buffer) false) [] r
    else if c = '?' || c = '#' then
      (resolveSegment (scheme = "file") done (segment buffer) true, c :: r)
    else readSegments scheme done (c :: buffer) r
where
  segment (buffer : List Char) : String :=
    String.ofList (Percent.encode Percent.path buffer.reverse)

/-- The query and the fragment that a text consists of. -/
def parseEnd (special : Bool) (s : List Char) : Option String × Option String :=
  let escaped := if special then Percent.specialQuery else Percent.query
  let fragmentOf := fun t => String.ofList (Percent.encode Percent.fragment t)
  match s with
  | '?' :: r =>
    let query := r.takeWhile (· != '#')
    let fragment := match r.drop query.length with
      | _ :: t => some (fragmentOf t)
      | [] => none
    (some (String.ofList (Percent.encode escaped query)), fragment)
  | '#' :: t => (none, some (fragmentOf t))
  | _ => (none, none)

/-- The path after an authority, and what follows it. -/
def parsePath (scheme : String) (s : List Char) : List String × List Char :=
  let special := isSpecial scheme
  match s with
  | [] => (if special then [""] else [], [])
  | c :: r =>
    if c = '/' || (special && c = '\\') then readSegments scheme [] [] r
    else if !special && (c = '?' || c = '#') then ([], c :: r)
    else readSegments scheme [] [] (c :: r)

def withAuthority (scheme : String) (s : List Char) : Except UrlError Url := do
  let (authority, rest) ← parseAuthority scheme s
  let (ss, rest) := parsePath scheme rest
  let (query, fragment) := parseEnd (isSpecial scheme) rest
  return ⟨scheme, some authority, .segments ss, query, fragment⟩

/-- The host of a file and what follows it, where two slashes announce one. A drive is no host. -/
def parseFileHost (s : List Char) : Except UrlError (Option (Option Host) × List Char) := do
  let isSlash := fun c : Char => c = '/' || c = '\\'
  match s with
  | a :: b :: r =>
    if !(isSlash a && isSlash b) then return (none, s)
    let text := r.takeWhile fun c => !endsAuthority true c
    if isDrive text then return (none, r)
    if text.isEmpty then return (some none, r)
    let host ← parseHost text
    let host := if host = .domain "localhost" then none else some host
    return (some host, r.drop text.length)
  | s => return (none, s)

/-- A path with a colon after the letter of the drive that it starts with; nothing, where it starts
with none. -/
def withDrive? : List String → Option (List String)
  | [] => none
  | s :: ss =>
    if isDrive s.toList then some (String.ofList (s.toList.take 1 ++ [':']) :: ss) else none

/-- A URL of the local file system, whose host is mostly left out. A path that starts with a drive
has no host; after an empty one the drive stays as it is. -/
def parseFile (s : List Char) : Except UrlError Url := do
  let (host, rest) ← parseFileHost s
  let (ss, rest) := parsePath "file" rest
  let (host, ss) :=
    match host, withDrive? ss with
    | some none, _ => (none, ss)
    | _, some ss => (none, ss)
    | host, none => (host.join, ss)
  let ss := match ss.dropWhile String.isEmpty with
    | [] => [""]
    | ss => ss
  let (query, fragment) := parseEnd true rest
  return ⟨"file", host.map fun h => ⟨"", "", h, none⟩, .segments ss, query, fragment⟩

/-- A URL whose scheme has no rules of its own. -/
def parsePlain (scheme : String) (s : List Char) : Except UrlError Url :=
  match s with
  | '/' :: '/' :: r => withAuthority scheme r
  | '/' :: r =>
    let (ss, rest) := readSegments scheme [] [] r
    let (query, fragment) := parseEnd false rest
    .ok ⟨scheme, none, .segments ss, query, fragment⟩
  | s =>
    let bare := s.takeWhile fun c => c ≠ '?' && c ≠ '#'
    let (query, fragment) := parseEnd false (s.drop bare.length)
    let text := String.ofList (Percent.encode Percent.controls bare)
    .ok ⟨scheme, none, .bare text, query, fragment⟩

/-- The URL that a text denotes. -/
def parse (s : String) : Except UrlError Url :=
  match cutScheme? (clean s.toList) with
  | none => .error .noScheme
  | some (scheme, rest) =>
    if scheme = "file" then parseFile rest
    else if isSpecial scheme then withAuthority scheme (rest.dropWhile fun c => c = '/' || c = '\\')
    else parsePlain scheme rest

end ResourceSync.Url
