import Backlog.Decimal.Numeral
import Backlog.Http.Host
import Backlog.Http.Percent
import Backlog.Text.Parts
/-!
# Addresses

An address in its parts: scheme, authority, path, query and fragment. Parts
are kept in percent coding, with escapes that are already there left alone.
A request's address is a base address with a path put behind it, and an
address with an authority has no dot segments in its path.

The rules are those of the library that requests are sent with, which has no part
here: how it takes a text apart, which characters it leaves as they are in each
part, how long a text it reads, what it refuses, and how it joins a path to a base
address are assumed to be as they are written down in this module.
-/

namespace Backlog

namespace Http

/-- An address in its parts. -/
structure Url where
  /-- The scheme, empty when there is none. -/
  scheme : List Char
  /-- What stands before `@` in the authority. -/
  userinfo : List Char
  /-- The host, empty when there is none. -/
  host : List Char
  /-- The port, unless it is missing or the scheme's own. -/
  port : Option Int
  /-- The path in percent coding. -/
  path : List Char
  /-- The query in percent coding, if there is one. -/
  query : Option (List Char)
  /-- The fragment in percent coding, if there is one. -/
  fragment : Option (List Char)

namespace Url

/-- The longest text that is read as an address or as a part of one. -/
def maxLength : Nat := 65536

/-- Whether a character is an ASCII control. -/
def isControl (c : Char) : Bool := c.toNat < 0x20 || c.toNat = 0x7F

/-- Whether a character stands for itself in a query. -/
def isQueryChar (c : Char) : Bool :=
  0x21 ≤ c.toNat && c.toNat ≤ 0x7E && c ∉ ['"', '#', '<', '>']

/-- Whether a character stands for itself in a path. -/
def isPathChar (c : Char) : Bool :=
  isQueryChar c && c ∉ ['?', '\x60', '\x7b', '\x7d']

/-- Whether a character stands for itself in a fragment. -/
def isFragmentChar (c : Char) : Bool :=
  0x21 ≤ c.toNat && c.toNat ≤ 0x7E && c ∉ ['"', '<', '>', '\x60']

/-- Whether a character stands for itself before the host. -/
def isUserinfoChar (c : Char) : Bool :=
  isPathChar c && c ∉ ['/', ';', '=', '@', '[', '\\', ']', '^', '|']

/-- Whether a scheme may hold the character. -/
def isSchemeChar (c : Char) : Bool := c.isAlphanum || c = '+' || c = '.' || c = '-'

/-- Splits off the scheme and its colon. -/
def cutScheme (cs : List Char) : List Char × List Char :=
  let scheme := cs.takeWhile isSchemeChar
  match cs.dropWhile isSchemeChar with
  | ':' :: rest => if scheme.head?.all Char.isAlpha then (scheme, rest) else ([], cs)
  | _ => ([], cs)

/-- Splits off the authority and the two slashes before it. -/
def cutAuthority : List Char → List Char × List Char
  | '/' :: '/' :: rest =>
    let isEnd (c : Char) : Bool := c = '/' || c = '?' || c = '#'
    (rest.takeWhile (!isEnd ·), rest.dropWhile (!isEnd ·))
  | cs => ([], cs)

/-- Splits the authority into what stands before the last `@`, the host and
the port. -/
def cutHost (authority : List Char) : List Char × List Char × List Char :=
  let rest := (authority.reverse.takeWhile (· ≠ '@')).reverse
  let userinfo := (authority.take (authority.length - rest.length)).dropLast
  let bracketed := (rest.reverse.dropWhile (· ≠ ']')).reverse
  let host :=
    if rest.head? = some '[' ∧ bracketed ≠ [] then bracketed
    else rest.takeWhile fun c => c ≠ ':' && c ≠ '@'
  let rest := rest.drop host.length
  (userinfo, host, if rest.head? = some ':' then rest.drop 1 else rest)

/-- The port that a scheme has by itself. -/
def defaultPort? (scheme : List Char) : Option Int :=
  match String.ofList scheme with
  | "ftp" => some 21
  | "http" => some 80
  | "https" => some 443
  | "ws" => some 80
  | "wss" => some 443
  | _ => none

/-- Reads a port. -/
def readPort (scheme port : List Char) : Except UrlFault (Option Int) :=
  if port = [] then .ok none
  else
    match Decimal.readInteger (String.ofList port) with
    | .error _ => .error (.badPort (String.ofList port))
    | .ok number => .ok (if defaultPort? scheme = some number then none else some number)

/-- One segment of a path after those before it: `.` is dropped and `..`
takes the segment before it away. -/
def pushSegment (segments : List (List Char)) (segment : List Char) : List (List Char) :=
  if segment = ['.'] then segments
  else if segment = ['.', '.'] then
    if segments = [] ∨ segments = [[]] then segments else segments.dropLast
  else segments ++ [segment]

/-- A path without dot segments. -/
def withoutDots (path : List Char) : List Char :=
  ['/'].intercalate ((Text.splitAtChar '/' path).foldl pushSegment [])

/-- Whether the address has a scheme, a host or a port. -/
def isRooted (url : Url) : Bool :=
  url.scheme ≠ [] || url.userinfo ≠ [] || url.host ≠ [] || url.port.isSome

/-- Whether the address has a host, or what goes with one. -/
def hasAuthority (url : Url) : Bool :=
  url.userinfo ≠ [] || url.host ≠ [] || url.port.isSome

/-- Checks a path against the parts before it. -/
def checkPath (url : Url) (path : List Char) : Except UrlFault Unit :=
  if url.hasAuthority ∧ path ≠ [] ∧ path.head? ≠ some '/' then .error .pathNotRooted
  else if !url.isRooted ∧ (Text.afterStart? ['/', '/'] path).isSome then .error .pathDoubleSlash
  else if !url.isRooted ∧ path.head? = some ':' then .error .pathColon
  else .ok ()

/-- Checks the length of a part. -/
def checkLength (part : String) (cs : List Char) : Except UrlFault Unit :=
  if maxLength < cs.length then .error (.partTooLong part) else .ok ()

/-- Checks that no half of a pair is among the characters of a part, which could
not be written in bytes. -/
def checkHalves (cs : List Char) : Except UrlFault Unit :=
  match cs.find? Text.isHalf with
  | some c => .error (.half c)
  | none => .ok ()

/-- Reads the parts of an address. -/
def ofParts (scheme authority path : List Char) (query fragment : Option (List Char)) :
    Except UrlFault Url := do
  let (userinfo, host, port) := cutHost authority
  checkHalves userinfo
  let host ← Host.ofChars host
  let port ← readPort scheme port
  let url : Url :=
    { scheme := scheme.map Char.toLower
      userinfo := Percent.encode isUserinfoChar userinfo
      host
      port
      path := []
      query := query.map (Percent.encode isQueryChar)
      fragment := fragment.map (Percent.encode isFragmentChar) }
  checkPath url path
  let path := if url.isRooted then withoutDots path else path
  checkHalves path
  checkHalves (query.getD [])
  checkHalves (fragment.getD [])
  pure { url with path := Percent.encode isPathChar path }

/-- Splits a path from the query behind it. -/
def cutQuery (cs : List Char) : List Char × Option (List Char) := Text.cutAtChar '?' cs

/-- Reads an address. -/
def ofChars (cs : List Char) : Except UrlFault Url := do
  if maxLength < cs.length then throw .tooLong
  match cs.findIdx? isControl with
  | some position => throw (.unprintable (cs.getD position ' ') position)
  | none => pure ()
  let (scheme, rest) := cutScheme cs
  let (authority, rest) := cutAuthority rest
  let (rest, fragment) := Text.cutAtChar '#' rest
  let (path, query) := cutQuery rest
  ofParts scheme authority path query fragment

/-- The host and the port as the head of a request names them. -/
def hostLine (url : Url) : List Char :=
  Host.display url.host ++
    match url.port with
    | some port => ':' :: (toString port).toList
    | none => []

/-- The userinfo, the host and the port as they stand in an address. -/
def authority (url : Url) : List Char :=
  (if url.userinfo = [] then [] else url.userinfo ++ ['@']) ++ url.hostLine

/-- The path as it stands in a request. -/
def requestPath (url : Url) : List Char := if url.path = [] then ['/'] else url.path

/-- The path and the query as they stand in a request. -/
def target (url : Url) : List Char :=
  url.requestPath ++
    match url.query with
    | some query => '?' :: query
    | none => []

/-- The address with another path and query. No part may be too long, and what
stands before the path is read again. -/
def replaceTarget (url : Url) (path : List Char) (query : Option (List Char)) :
    Except UrlFault Url := do
  checkLength "authority" url.authority
  checkLength "path" path
  checkLength "query" (query.getD [])
  checkLength "fragment" (url.fragment.getD [])
  ofParts url.scheme url.authority path query url.fragment

/-- The address with another path and query, given as one. -/
def withRawTarget (url : Url) (target : List Char) : Except UrlFault Url :=
  let (path, query) := cutQuery target
  url.replaceTarget path query

/-- The address with a slash at the end. -/
def withFinalSlash (url : Url) : Except UrlFault Url :=
  if url.target.getLast? = some '/' then .ok url else url.withRawTarget (url.target ++ ['/'])

/-- An address put behind a base address that ends in a slash. -/
def append (base reference : Url) : Except UrlFault Url :=
  base.withRawTarget (base.target ++ reference.target.dropWhile (· = '/'))

/-- The address with another query. -/
def withQuery (url : Url) (query : List Char) : Except UrlFault Url :=
  url.replaceTarget url.path (some query)

/-- The path of a request in plain text. -/
def plainPath (url : Url) : String := String.ofList (Percent.decode url.requestPath)

/-- The host for people. -/
def plainHost (url : Url) : Except Domain.NameFault String :=
  (Host.plain url.host).map String.ofList

/-- The address as one text. -/
def display (url : Url) : List Char :=
  (if url.scheme = [] then [] else url.scheme ++ [':']) ++
    (if url.authority = [] then [] else '/' :: '/' :: url.authority) ++ url.path ++
    (match url.query with
      | some query => '?' :: query
      | none => []) ++
    match url.fragment with
    | some fragment => '#' :: fragment
    | none => []

/-- The address as one text, without a `#` that nothing follows. -/
def displayWithoutBareMark (url : Url) : List Char :=
  if url.display.getLast? = some '#' then url.display.dropLast else url.display

/-- The address as one text, up to the last `#`. -/
def displayBeforeMark (url : Url) : List Char :=
  if '#' ∈ url.display then (url.display.reverse.dropWhile (· ≠ '#')).reverse.dropLast
  else url.display

/-- Whether the address, read as a text up to the last `#`, starts with a word
and a colon, as an address with a scheme does. -/
def startsLikeScheme (url : Url) : Bool :=
  let text := url.displayBeforeMark
  let word := text.takeWhile fun c => c ≠ '/' && c ≠ ':'
  !word.isEmpty && (text.drop word.length).head? = some ':'

end Url

end Http

end Backlog
