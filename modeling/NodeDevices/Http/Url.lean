import NodeDevices.Http.Host
import NodeDevices.Text.Blank
import NodeDevices.Text.Substring
/-! Addresses of web resources in their normal form. Tabs and line breaks do not count,
backslashes are slashes, dots in a path are steps, and characters that an address cannot hold
are escaped.
-/

namespace NodeDevices.Http

/-- An address. Its texts are escaped. -/
structure Url where
  secure : Bool
  host : Host
  port : Option Nat
  path : List (List Char)
  query : Option (List Char)
  fragment : Option (List Char)
  deriving DecidableEq, Repr

namespace Url

/-- The port of a scheme. -/
def defaultPort (secure : Bool) : Nat :=
  if secure then 443 else 80

/-- The characters that are escaped in a fragment. -/
def fragmentEscapes : List Char := " \"<>\x60".toList

/-- The characters that are escaped in a path. -/
def pathEscapes : List Char := fragmentEscapes ++ "#?\x7b\x7d".toList

/-- The characters that are escaped in a query. -/
def queryEscapes : List Char := " \"#<>'".toList

/-- Says whether a character is a slash of either kind. -/
def isSlash (c : Char) : Bool :=
  c = '/' || c = '\\'

/-- Says whether a character ends the part of an address that names the server. -/
def endsServer (c : Char) : Bool :=
  isSlash c || c = '?' || c = '#'

/-- The spellings of a step that stays. -/
def stayWords : List String := [".", "%2e"]

/-- The spellings of a step back. -/
def backWords : List String := ["..", ".%2e", "%2e.", "%2e%2e"]

/-- Says whether a segment is one of some words, whatever the case of its letters. -/
def isWordOf (words : List String) (segment : List Char) : Bool :=
  words.contains (String.ofList (segment.map Char.toLower))

/-- Says whether a segment is a letter with a colon or bar, which no step back takes away. -/
def isDrive (segment : List Char) : Bool :=
  match segment with
  | [letter, mark] => letter.isAlpha && (mark = ':' || mark = '|')
  | _ => false

/-- A path without its last segment. -/
def stepBack (path : List (List Char)) : List (List Char) :=
  match path.getLast? with
  | some segment => if isDrive segment then path else path.dropLast
  | none => []

/-- Follows the segments of a path from where earlier ones have led. -/
def follow (path : List (List Char)) : List (List Char) → List (List Char)
  | [] => path
  | segment :: rest =>
      let encoded := Percent.encode pathEscapes segment
      let stop := if rest = [] then [[]] else []
      if isWordOf backWords encoded then follow (stepBack path ++ stop) rest
      else if isWordOf stayWords encoded then follow (path ++ stop) rest
      else follow (path ++ [encoded]) rest

/-- Reads a port, which is left out when it is the scheme's own. -/
def port? (secure : Bool) (digits : List Char) : Option (Option Nat) :=
  if digits = [] then some none
  else do
    let port ← Text.Decimal.nat? digits
    if 65535 < port then none
    else return if port = defaultPort secure then none else some port

/-- The length of the host that a text starts with. A colon between brackets belongs to it. -/
def hostLength (bracketed : Bool) : List Char → Nat
  | [] => 0
  | c :: rest =>
      if c = ':' ∧ !bracketed then 0
      else 1 + hostLength (if c = '[' then true else if c = ']' then false else bracketed) rest

/-- Reads a host and perhaps a port. -/
def server? (secure : Bool) (text : List Char) : Option (Host × Option Nat) := do
  let size := hostLength false text
  let host ← Host.parse? (text.take size)
  return (host, ← port? secure (text.drop (size + 1)))

/-- The text after the last mark in a text, or all of it. -/
def afterLast (mark : Char) (text : List Char) : List Char :=
  (text.reverse.takeWhile (· ≠ mark)).reverse

/-- Reads what comes after the scheme: a server, whose user counts for nothing, and a path. -/
def ofRest? (secure : Bool) (text : List Char) : Option Url := do
  let text := text.dropWhile isSlash
  let authority := text.takeWhile (!endsServer ·)
  let (host, port) ← server? secure (afterLast '@' authority)
  let rest := text.drop authority.length
  let path := (rest.takeWhile fun c => c ≠ '?' ∧ c ≠ '#').map fun c => if c = '\\' then '/' else c
  let rest := rest.drop path.length
  let (query, rest) :=
    match rest with
    | '?' :: rest => (some (rest.takeWhile (· ≠ '#')), rest.dropWhile (· ≠ '#'))
    | rest => (none, rest)
  return {
    secure
    host
    port
    path := follow [] (Text.splitOn '/' (if path.head? = some '/' then path.drop 1 else path))
    query := query.map (Percent.encode queryEscapes)
    fragment :=
      if rest = [] then none else some (Percent.encode fragmentEscapes (rest.drop 1))
  }

/-- Says whether a character is a control or a space, which do not count at either end. -/
def isEdge (c : Char) : Bool :=
  c.toNat ≤ 0x20

/-- Says whether a character does not count anywhere. -/
def isIdle (c : Char) : Bool :=
  c = '\t' || c = '\n' || c = '\r'

/-- Reads an address. -/
def parse? (text : String) : Option Url :=
  let trimmed := Text.dropEndWhile isEdge (text.toList.dropWhile isEdge)
  let counted := trimmed.filter (!isIdle ·)
  match Text.dropStart? "http:".toList counted, Text.dropStart? "https:".toList counted with
  | some rest, _ => ofRest? false rest
  | _, some rest => ofRest? true rest
  | _, _ => none

/-- A text after a mark, if there is one. -/
def after (mark : Char) (text : Option (List Char)) : List Char :=
  (text.map (mark :: ·)).getD []

/-- What a request asks a server for. -/
def target (url : Url) : String :=
  String.ofList ('/' :: Text.joinWith '/' url.path ++ after '?' url.query)

/-- The written form of an address. -/
def render (url : Url) : String :=
  String.ofList ((if url.secure then "https://" else "http://").toList ++ url.host.render
    ++ after ':' (url.port.map Text.Decimal.digits)) ++ url.target
    ++ String.ofList (after '#' url.fragment)

/-- Says whether a request can be made for an address: some characters may stand in the
name of a host, but not in a request.
-/
def isRequestable (url : Url) : Bool :=
  match url.host with
  | .name text => text.all fun c => c ∉ ['"', '\x60', '\x7b', '\x7d']
  | _ => true

end Url

end NodeDevices.Http
