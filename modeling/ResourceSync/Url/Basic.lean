import ResourceSync.Url.Ipv6
import ResourceSync.Url.Percent

/-! Absolute URLs in normal form, and how a path is extended by whole segments. -/
namespace ResourceSync

/-- Who answers for a URL. -/
inductive Host where
  | domain (name : String)
  | ipv4 (address : Nat)
  | ipv6 (pieces : List Nat)
deriving DecidableEq, Repr

def Host.text : Host → String
  | .domain name => name
  | .ipv4 address => Ipv4.text address
  | .ipv6 pieces => "[" ++ Ipv6.text pieces ++ "]"

/-- The part of a URL between two slashes and the path. Texts are in percent notation. -/
structure Authority where
  username : String
  password : String
  host : Host
  port : Option Nat
deriving DecidableEq, Repr

def Authority.text (a : Authority) : String :=
  let password := if a.password.isEmpty then "" else ":" ++ a.password
  let user := if a.username.isEmpty && a.password.isEmpty then "" else a.username ++ password ++ "@"
  user ++ a.host.text ++ (a.port.map fun p => s!":{p}").getD ""

/-- The path of a URL in percent notation: segments with a slash before each of them, or a bare text
after the scheme that nothing can be appended to. -/
inductive Path where
  | segments (ss : List String)
  | bare (text : String)
deriving DecidableEq, Repr

def Path.text : Path → String
  | .segments ss => String.join (ss.map ("/" ++ ·))
  | .bare text => text

structure Url where
  scheme : String
  authority : Option Authority
  path : Path
  query : Option String
  fragment : Option String
deriving DecidableEq, Repr

namespace Url

/-- The port that a scheme implies. -/
def defaultPort? : String → Option Nat
  | "http" | "ws" => some 80
  | "https" | "wss" => some 443
  | "ftp" => some 21
  | _ => none

/-- Schemes whose URLs have a host and a path of segments, backslashes counting as slashes. -/
def isSpecial (scheme : String) : Bool := scheme = "file" || (defaultPort? scheme).isSome

def isWeb (url : Url) : Bool := url.scheme = "http" || url.scheme = "https"

def pathText (url : Url) : String := url.path.text

/-- Whether the path has no segments to extend. -/
def isBare (url : Url) : Bool :=
  match url.path with
  | .bare _ => true
  | .segments _ => false

def text (url : Url) : String :=
  let rest := match url.authority with
    | some a => "//" ++ a.text ++ url.pathText
    | none =>
      match url.path with
      | .segments ("" :: _ :: _) => "/." ++ url.pathText
      | _ => (if url.scheme = "file" then "//" else "") ++ url.pathText
  let query := (url.query.map ("?" ++ ·)).getD ""
  let fragment := (url.fragment.map ("#" ++ ·)).getD ""
  url.scheme ++ ":" ++ rest ++ query ++ fragment

/-- The path without an empty segment at its end, the first segment aside. -/
def dropEmptyEnd (ss : List String) : List String :=
  if 1 < ss.length && ss.getLast? == some "" then ss.dropLast else ss

/-- A segment as it is appended: tabs and line ends are left out. -/
def segmentText (scheme segment : String) : String :=
  let escaped := if isSpecial scheme then Percent.specialPathSegment else Percent.pathSegment
  String.ofList (Percent.encode escaped (segment.toList.filter fun c =>
    c != '\t' && c != '\n' && c != '\r'))

/-- Appends one segment to a path; the two dot segments are passed over. A segment that becomes a
dot segment only without its tabs and line ends keeps the meaning of one. -/
def appendSegment (scheme : String) (ss : List String) (segment : String) : List String :=
  if segment = "." ∨ segment = ".." then ss
  else
    let ss := if ss = [""] then [] else ss
    match segmentText scheme segment with
    | "." => ss ++ [""]
    | ".." => ss.dropLast ++ [""]
    | s => ss ++ [s]

/-- The URL with segments appended to its path; nothing, where the path is bare. -/
def extend? (url : Url) (segments : List String) : Option Url :=
  match url.path with
  | .bare _ => none
  | .segments ss =>
    let appended := segments.foldl (appendSegment url.scheme) (dropEmptyEnd ss)
    some { url with path := .segments appended }

end Url

end ResourceSync
