import Disburse.Text.Utf8

namespace Disburse.Http

open Disburse.Text

/-- An address on the network, in its parts. -/
structure Url where
  /-- Scheme and authority. -/
  origin : String
  segments : List String
  query : Option String
  fragment : Option String
  deriving DecidableEq

namespace Url

/-- A byte as a percent sign and two digits in capitals. -/
def escapeByte (b : UInt8) : List Char :=
  ['%', (Nat.digitChar (b.toNat / 16)).toUpper, (Nat.digitChar (b.toNat % 16)).toUpper]

/-- Escape the control characters, all characters beyond ASCII, and the given ones. -/
def escape (special : List Char) (cs : List Char) : String :=
  String.ofList <| cs.flatMap fun c =>
    if c.toNat < 0x20 || 0x7F ≤ c.toNat || special.contains c then
      (Utf8.encode (String.singleton c)).flatMap escapeByte
    else [c]

def inFragment : List Char := [' ', '"', '<', '>', '\x60']

def inPath : List Char := inFragment ++ ['#', '?', '\x7b', '\x7d']

def inQuery : List Char := [' ', '"', '#', '<', '>', '\'']

/-- A dot, as it is or escaped, at the start of a segment. -/
def dropDot : List Char → Option (List Char)
  | '.' :: rest => some rest
  | '%' :: '2' :: e :: rest => if e = 'e' || e = 'E' then some rest else none
  | _ => none

/-- A segment that stays where it is. -/
def isHere (segment : List Char) : Bool :=
  dropDot segment == some []

/-- A segment that goes one level up. -/
def isUp (segment : List Char) : Bool :=
  (dropDot segment).any isHere

/-- Resolve the dot segments; `above` holds the segments so far, the last one first. -/
def resolve (above : List String) : List (List Char) → List String
  | [] => above.reverse
  | segment :: rest =>
    let above := if isUp segment then above.tail
      else if isHere segment then above
      else escape inPath segment :: above
    let above := if rest.isEmpty && (isUp segment || isHere segment) then "" :: above else above
    resolve above rest

/-- Backslashes count as slashes. -/
def isSlash (c : Char) : Bool :=
  c = '/' || c = '\\'

/-- What stands behind the authority. -/
def endsAuthority (c : Char) : Bool :=
  isSlash c || c = '?' || c = '#'

/-- Drop blanks and control characters at both ends, and line breaks and tabs everywhere. -/
def clean (s : String) : List Char :=
  let outer := fun c : Char => decide (c.toNat ≤ 0x20)
  let inner := ((s.toList.dropWhile outer).reverse.dropWhile outer).reverse
  inner.filter fun c => !(c = '\t' || c = '\n' || c = '\r')

/-- Split a text behind the first colon with two slashes. -/
def splitScheme : List Char → List Char × List Char
  | ':' :: '/' :: '/' :: rest => ([':', '/', '/'], rest)
  | c :: rest =>
    let (scheme, rest) := splitScheme rest
    (c :: scheme, rest)
  | [] => ([], [])

def read (s : String) : Url :=
  let (scheme, rest) := splitScheme (clean s)
  let authority := rest.takeWhile fun c => !endsAuthority c
  let rest := rest.dropWhile fun c => !endsAuthority c
  let main := rest.takeWhile (· ≠ '#')
  let path := main.takeWhile (· ≠ '?')
  let behindSlash := match path with
    | c :: cs => if isSlash c then cs else c :: cs
    | [] => []
  { origin := String.ofList (scheme ++ authority)
    segments := resolve [] (behindSlash.splitOnP isSlash)
    query := (main.dropWhile (· ≠ '?')).tail?.map (escape inQuery)
    fragment := (rest.dropWhile (· ≠ '#')).tail?.map (escape inFragment) }

/-- Path and query, as a request names its target. -/
def target (u : Url) : String :=
  let path := String.join (u.segments.map ("/" ++ ·))
  path ++ (u.query.map ("?" ++ ·)).getD ""

def toText (u : Url) : String :=
  u.origin ++ u.target ++ (u.fragment.map ("#" ++ ·)).getD ""

end Url

end Disburse.Http
