import Sandbox.Text.Lowercase
import Sandbox.Text.Search
import Sandbox.Text.Utf8

/-!
# Addresses

The address of a download as the network sees it: the host in lower case, without a service number
that goes without saying, the path without dot segments, and with all characters that an address
cannot hold written as escapes.

## Main definitions

* `Url` : an address.
* `Url.parse?` : the address that a text stands for.
* `Url.resolve?` : the address that a text stands for when it is met at another address.
* `Url.text` : an address as a text.
-/

namespace Sandbox.Http

/-- An address. -/
structure Url where
  /-- The scheme, in lower case. -/
  scheme : String
  /-- The host with its service number, if the address has a host. -/
  authority : Option String
  /-- The path with its slashes. -/
  path : String
  /-- What follows the question mark. -/
  query : Option String
  /-- What follows the number sign. -/
  fragment : Option String
  deriving DecidableEq, Repr

namespace Url

/-! ### Escapes -/

/-- A hexadecimal digit in upper case. -/
def hexDigit (n : Nat) : Char :=
  if n < 10 then Char.ofNat (48 + n) else Char.ofNat (55 + n)

/-- The escape for a byte. -/
def escapeByte (b : UInt8) : List Char :=
  ['%', hexDigit (b.toNat / 16), hexDigit (b.toNat % 16)]

/-- Writes the characters that satisfy `p`, and all that are not printable, as escapes. -/
def escape (p : Char → Bool) (cs : List Char) : String :=
  String.ofList (cs.flatMap fun c =>
    if p c || c.toNat < 0x20 || 0x7E < c.toNat then
      (Text.Utf8.encode (String.singleton c)).flatMap escapeByte
    else [c])

/-- Characters that a fragment cannot hold. -/
def isEscapedInFragment (c : Char) : Bool :=
  [' ', '"', '<', '>', '\x60'].contains c

/-- Characters that a path cannot hold. -/
def isEscapedInPath (c : Char) : Bool :=
  isEscapedInFragment c || ['#', '?', '\x7b', '\x7d'].contains c

/-- Characters that a query cannot hold. -/
def isEscapedInQuery (isSpecial : Bool) (c : Char) : Bool :=
  [' ', '"', '#', '<', '>'].contains c || (isSpecial && c == '\x27')

/-- The value of a hexadecimal digit. -/
def hexValue? (c : Char) : Option Nat :=
  if c.isDigit then some (c.toNat - 48)
  else if 'a' ≤ c && c ≤ 'f' then some (c.toNat - 87)
  else if 'A' ≤ c && c ≤ 'F' then some (c.toNat - 55)
  else none

/-- The bytes of characters, with escapes as the bytes for which they stand. -/
def unescape : List Char → List UInt8
  | [] => []
  | '%' :: a :: b :: rest =>
    match hexValue? a, hexValue? b with
    | some x, some y => UInt8.ofNat (16 * x + y) :: unescape rest
    | _, _ => 0x25 :: unescape (a :: b :: rest)
  | c :: rest => Text.Utf8.encode (String.singleton c) ++ unescape rest

/-! ### Schemes -/

/-- The schemes whose addresses always have a host, with the service numbers that go without
saying. -/
def defaultServices : List (String × Nat) :=
  [("http", 80), ("https", 443), ("ws", 80), ("wss", 443), ("ftp", 21)]

/-- Whether a slash may be written backwards in addresses with this scheme. -/
def isSpecialScheme (scheme : String) : Bool :=
  scheme == "file" || (defaultServices.lookup scheme).isSome

/-- The scheme at the front of a text, in lower case, and what follows the colon. -/
def splitScheme? (cs : List Char) : Option (String × List Char) :=
  let name := cs.takeWhile (· != ':')
  match name, cs.drop name.length with
  | first :: _, _ :: rest =>
    if first.isAlpha && name.all (fun c => c.isAlphanum || c == '+' || c == '-' || c == '.') then
      some (String.ofList (name.map Char.toLower), rest)
    else none
  | _, _ => none

/-! ### Hosts -/

/-- The number that a part of a numeric host stands for: hexadecimal after `0x`, octal after `0`. -/
def hostNumber? (cs : List Char) : Option Nat :=
  let (base, digits) := match cs with
    | '0' :: 'x' :: rest | '0' :: 'X' :: rest => (16, rest)
    | '0' :: d :: rest => (8, d :: rest)
    | _ => (10, cs)
  digits.foldl (fun value? c => do
    let digit ← hexValue? c
    if digit < base then some ((← value?) * base + digit) else none) (some 0)

/-- The parts of a host between points; one point at the end does not count. -/
def hostParts (cs : List Char) : List (List Char) :=
  let parts := Text.splitOn '.' cs
  if parts.length > 1 && parts.getLast? == some [] then parts.dropLast else parts

/-- Whether a host has to be a numeric one, as its last part is a number. -/
def isNumericHost (cs : List Char) : Bool :=
  match (hostParts cs).getLast? with
  | some part => !part.isEmpty && (part.all Char.isDigit || (hostNumber? part).isSome)
  | none => false

/-- The numeric host in four decimal parts. -/
def numericHost? (cs : List Char) : Option String := do
  let numbers ← (hostParts cs).mapM fun part => if part.isEmpty then none else hostNumber? part
  let last ← numbers.getLast?
  let front := numbers.dropLast
  if 3 < front.length || front.any (255 < ·) || Nat.pow 256 (4 - front.length) ≤ last then none
  else
    let rest := (List.range (4 - front.length)).reverse.map fun k => last / Nat.pow 256 k % 256
    some (".".intercalate ((front ++ rest).map toString))

/-- Whether no host may hold a character. -/
def isForbiddenInHost (c : Char) : Bool :=
  c.toNat ≤ 0x20 || c.toNat == 0x7F ||
    ['#', '%', '/', ':', '<', '>', '?', '@', '[', '\\', ']', '^', '|'].contains c

/-- The host that characters stand for. -/
def host? (cs : List Char) : Option String :=
  match cs with
  | '[' :: rest =>
    let inner := rest.dropLast
    if rest.getLast? == some ']' && 2 ≤ inner.count ':' &&
        inner.all (fun c => (hexValue? c).isSome || c == ':' || c == '.') then
      some (String.ofList (cs.map Char.toLower))
    else none
  | _ =>
    let name := (Text.lowercase (Text.Utf8.decodeLossy (unescape cs))).toList
    if name.isEmpty || name.any isForbiddenInHost then none
    else if isNumericHost name then numericHost? name
    else some (String.ofList name)

/-- The service number that characters stand for, unless it goes without saying. -/
def service? (scheme : String) (cs : List Char) : Option (Option Nat) :=
  if cs.isEmpty then some none
  else if !cs.all Char.isDigit then none
  else
    let service := cs.foldl (fun n c => 10 * n + (c.toNat - 48)) 0
    if 65535 < service then none
    else if defaultServices.lookup scheme == some service then some none
    else some (some service)

/-- The host and the service number that characters stand for; who asks is left out. -/
def authority? (scheme : String) (cs : List Char) : Option String := do
  let cs := (cs.reverse.takeWhile (· != '@')).reverse
  let afterBracket := cs.reverse.takeWhile (· != ']')
  let hasService := afterBracket.contains ':'
  let serviceLength := (cs.reverse.takeWhile (· != ':')).length
  let (host, service) := if hasService then
      (cs.take (cs.length - serviceLength - 1), cs.drop (cs.length - serviceLength))
    else (cs, [])
  let host ← host? host
  match ← service? scheme service with
  | some service => return host ++ ":" ++ toString service
  | none => return host

/-! ### Paths -/

/-- Whether a segment stands for where one is. -/
def isHere (segment : List Char) : Bool :=
  segment == ['.'] || segment.map Char.toLower == "%2e".toList

/-- Whether a segment stands for the one above. -/
def isUp (segment : List Char) : Bool :=
  ["..".toList, ".%2e".toList, "%2e.".toList, "%2e%2e".toList].contains
    (segment.map Char.toLower)

/-- Segments without those that stand for a way, after the segments `before` in reverse order. -/
def normalSegments (before : List (List Char)) : List (List Char) → List (List Char)
  | [] => before.reverse
  | [last] =>
    if isUp last then ([] :: before.drop 1).reverse
    else if isHere last then ([] :: before).reverse
    else (last :: before).reverse
  | segment :: rest =>
    if isUp segment then normalSegments (before.drop 1) rest
    else if isHere segment then normalSegments before rest
    else normalSegments (segment :: before) rest

/-- The path with slashes before its segments. -/
def pathOf (segments : List (List Char)) : String :=
  String.join (segments.map fun segment => "/" ++ escape isEscapedInPath segment)

/-- The path that characters stand for. -/
def normalPath (isSpecial : Bool) (before : List (List Char)) (cs : List Char) : String :=
  let cs := if isSpecial then cs.map fun c => if c == '\\' then '/' else c else cs
  let cs := if cs.head? == some '/' then cs.drop 1 else cs
  pathOf (normalSegments before (Text.splitOn '/' cs))

/-! ### Reading and writing -/

/-- The text without blanks and controls at its ends, and without tabs and line breaks. -/
def clean (text : String) : List Char :=
  let isEdge (c : Char) : Bool := c.toNat ≤ 0x20
  ((text.toList.dropWhile isEdge).reverse.dropWhile isEdge).reverse.filter fun c =>
    c != '\t' && c != '\n' && c != '\r'

/-- The parts before and after the first copy of a character. -/
def cutAt (mark : Char) (cs : List Char) : List Char × Option (List Char) :=
  let front := cs.takeWhile (· != mark)
  match cs.drop front.length with
  | [] => (front, none)
  | _ :: rest => (front, some rest)

/-- The parts before the query, of the query, and of the fragment. -/
def splitParts (cs : List Char) : List Char × Option (List Char) × Option (List Char) :=
  let (cs, fragment) := cutAt '#' cs
  let (cs, query) := cutAt '?' cs
  (cs, query, fragment)

/-- The address with a given query and fragment. -/
def withParts (url : Url) (query fragment : Option (List Char)) : Url :=
  { url with
    query := query.map (escape (isEscapedInQuery (isSpecialScheme url.scheme)))
    fragment := fragment.map (escape isEscapedInFragment) }

/-- The address whose host and path are given by characters that follow the scheme. -/
def afterScheme? (scheme : String) (cs : List Char) : Option Url := do
  let isSlash (c : Char) : Bool := c == '/' || (isSpecialScheme scheme && c == '\\')
  if (defaultServices.lookup scheme).isSome then
    let cs := cs.dropWhile isSlash
    let authority := cs.takeWhile fun c => !isSlash c
    return ⟨scheme, some (← authority? scheme authority),
      normalPath true [] (cs.drop authority.length), none, none⟩
  else if scheme == "file" then
    let slashes := (cs.takeWhile isSlash).length
    let host := if slashes == 2 then (cs.drop 2).takeWhile fun c => !isSlash c else []
    let rest := if slashes == 2 then cs.drop (2 + host.length) else cs.drop (slashes - 1)
    let authority := if host.isEmpty then some "" else host? host
    return ⟨scheme, some (← authority), normalPath true [] rest, none, none⟩
  else if cs.take 2 == ['/', '/'] then
    let cs := cs.drop 2
    let authority := cs.takeWhile (· != '/')
    let rest := cs.drop authority.length
    let path := if rest.isEmpty then "" else normalPath false [] rest
    return ⟨scheme, some (String.ofList authority), path, none, none⟩
  else if cs.head? == some '/' then return ⟨scheme, none, normalPath false [] cs, none, none⟩
  else return ⟨scheme, none, escape (fun _ => false) cs, none, none⟩

/-- The address that a text stands for. -/
def parse? (text : String) : Option Url := do
  let (scheme, rest) ← splitScheme? (clean text)
  let (cs, query, fragment) := splitParts rest
  return (← afterScheme? scheme cs).withParts query fragment

/-- The address that a text stands for when it is met at another address. -/
def resolve? (base : Url) (text : String) : Option Url := do
  if let some url := parse? text then return url
  let (cs, query, fragment) := splitParts (clean text)
  let cs := cs.map fun c => if c == '\\' then '/' else c
  if cs.take 2 == ['/', '/'] then return (← afterScheme? base.scheme cs).withParts query fragment
  else if cs.isEmpty then
    let url := base.withParts query fragment
    return { url with query := url.query <|> base.query }
  else if cs.head? == some '/' then
    return { base with path := normalPath true [] cs }.withParts query fragment
  else
    let before := (Text.splitOn '/' base.path.toList).drop 1
    let merged := pathOf (normalSegments before.dropLast.reverse (Text.splitOn '/' cs))
    return { base with path := merged }.withParts query fragment

/-- Path and query, as they are sent to a server. -/
def request (url : Url) : String :=
  url.path ++ match url.query with
    | some query => "?" ++ query
    | none => ""

/-- An address as a text. -/
def text (url : Url) : String :=
  url.scheme ++ ":" ++ (match url.authority with
    | some authority => "//" ++ authority
    | none => "") ++ url.request ++ match url.fragment with
    | some fragment => "#" ++ fragment
    | none => ""

/-- Whether the address is one for this protocol. -/
def isHttp (url : Url) : Bool :=
  url.scheme == "http" || url.scheme == "https"

end Url

end Sandbox.Http
