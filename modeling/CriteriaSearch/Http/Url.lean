import CriteriaSearch.DomainName.Basic
import CriteriaSearch.Http.Octets
import CriteriaSearch.Text.Split

/-!
# Addresses on the web

Reads an address of the schemes `http` and `https` as far as requests need it: credentials, whether
host and port are in order, path and query.  Tabs and line breaks inside an address are dropped, as
are controls and blanks around it.

Path segments are appended one by one, with every character that a segment may not hold behind a
percent sign, so a segment never adds a separator.
-/

namespace CriteriaSearch.Http

/-- Why an address is none. -/
inductive UrlError where
  | emptyHost
  | invalidPort
  | invalidHostName
  | invalidIPv4
  | invalidIPv6
  deriving DecidableEq

/-- What an address names. -/
structure Url where
  username : List Char := []
  password : Option (List Char) := none
  /-- The path, which starts with a slash. -/
  path : List Char := ['/']
  query : Option (List Char) := none
  deriving DecidableEq

namespace UrlError

/-- What is wrong with the address. -/
def message : UrlError → String
  | emptyHost => "empty host"
  | invalidPort => "invalid port number"
  | invalidHostName => "invalid international domain name"
  | invalidIPv4 => "invalid IPv4 address"
  | invalidIPv6 => "invalid IPv6 address"

end UrlError

namespace Url

/-! ## Characters -/

/-- Characters that no part of an address keeps as they are. -/
def isControl (c : Char) : Bool :=
  c.toNat < 0x20 || c.toNat == 0x7F

/-- Characters that a path keeps. -/
def keptInPath (c : Char) : Bool :=
  !(isControl c ||
    [' ', '"', '<', '>', Char.ofNat 0x60, '#', '?', Char.ofNat 0x7B, Char.ofNat 0x7D].contains c)

/-- Characters that one segment of a path keeps. -/
def keptInSegment (c : Char) : Bool :=
  keptInPath c && !(['/', '%', '\\'].contains c)

/-- Characters that a query keeps. -/
def keptInQuery (c : Char) : Bool :=
  !(isControl c || [' ', '"', '<', '>', '#', Char.ofNat 39].contains c)

/-- Characters that are dropped wherever they stand. -/
def isDropped (c : Char) : Bool :=
  c == '\t' || c == '\n' || c == '\r'

/-- Characters that end the part before the path. -/
def endsAuthority (c : Char) : Bool :=
  c == '/' || c == '\\' || c == '?' || c == '#'

/-! ## Hosts -/

/-- Splits at the last occurrence of a character. -/
def splitLast? (c : Char) (s : List Char) : Option (List Char × List Char) :=
  let after := (s.reverse.takeWhile (· != c)).reverse
  if after.length = s.length then none
  else some (s.take (s.length - after.length - 1), after)

/-- The part of a host and port that is the host: up to a colon outside brackets. -/
def hostPart (insideBrackets : Bool) : List Char → List Char
  | [] => []
  | c :: rest =>
    if c = ':' && !insideBrackets then []
    else
      c :: hostPart (if c = '[' then true else if c = ']' then false else insideBrackets) rest

/-- A number of an IPv4 address: decimal, octal behind a zero, or hexadecimal. -/
def ipv4Number? (s : List Char) : Option Nat :=
  match s with
  | [] => none
  | '0' :: x :: rest =>
    if x = 'x' || x = 'X' then
      rest.foldlM (fun n c => (Text.hexValue? c).map fun d => n * 16 + d) 0
    else
      (x :: rest).foldlM
        (fun n c => if c.isDigit && c.toNat < '8'.toNat then some (n * 8 + (c.toNat - 48)) else none)
        0
  | s => s.foldlM (fun n c => if c.isDigit then some (n * 10 + (c.toNat - 48)) else none) 0

/-- The labels of a host name without an empty last one. -/
def filledLabels (labels : List (List Char)) : List (List Char) :=
  if 1 < labels.length && labels.getLast? == some [] then labels.dropLast else labels

/-- Whether a host name has to be an IPv4 address: its last label is a number. -/
def endsInNumber (labels : List (List Char)) : Bool :=
  match (filledLabels labels).getLast? with
  | none => false
  | some last =>
    (!last.isEmpty && last.all Char.isDigit) || (ipv4Number? last).isSome

/-- Whether a host name is an IPv4 address: one to four numbers, all but the last an octet, the last
as large as the remaining octets. -/
def isIPv4 (labels : List (List Char)) : Bool :=
  match (filledLabels labels).mapM ipv4Number? with
  | none => false
  | some ns =>
    1 ≤ ns.length && ns.length ≤ 4 &&
      ns.dropLast.all (· < 256) &&
      (ns.getLast?.getD 0) < Nat.pow 256 (5 - ns.length)

/-- Whether four labels are the dotted end of an IPv6 address. -/
def isDottedEnd (s : List Char) : Bool :=
  let parts := Text.splitAt '.' s
  parts.length = 4 && parts.all fun p =>
    !p.isEmpty && p.all Char.isDigit && (p.length = 1 || p.head? != some '0') &&
      p.length ≤ 3 && ((ipv4Number? p).getD 256) < 256

/-- The number of sixteen-bit groups of one side of an IPv6 address, if it is made of groups; the
last group may be a dotted end where that is allowed. -/
def ipv6Groups? (dottedAllowed : Bool) (s : List Char) : Option Nat :=
  if s.isEmpty then some 0
  else
    let parts := Text.splitAt ':' s
    let isGroup (p : List Char) : Bool :=
      1 ≤ p.length && p.length ≤ 4 && p.all fun c => (Text.hexValue? c).isSome
    if parts.dropLast.all isGroup then
      match parts.getLast? with
      | none => none
      | some last =>
        if isGroup last then some parts.length
        else if dottedAllowed && isDottedEnd last then some (parts.length + 1)
        else none
    else none

/-- Splits at the first pair of colons. -/
def splitDoubleColon? : List Char → Option (List Char × List Char)
  | [] => none
  | ':' :: ':' :: rest => some ([], rest)
  | c :: rest => (splitDoubleColon? rest).map fun p => (c :: p.1, p.2)

/-- Whether a text is an IPv6 address: eight groups, or fewer with one gap. -/
def isIPv6 (s : List Char) : Bool :=
  match splitDoubleColon? s with
  | none => ipv6Groups? true s == some 8
  | some (before, after) =>
    match ipv6Groups? false before, ipv6Groups? true after with
    | some a, some b => a + b ≤ 7
    | _, _ => false

/-- Checks a host. -/
def checkHost (host : List Char) : Except UrlError Unit :=
  if host.isEmpty then .error .emptyHost
  else if host.head? = some '[' then
    if host.getLast? = some ']' && isIPv6 (host.drop 1).dropLast then .ok ()
    else .error .invalidIPv6
  else
    match (textOfOctets? (percentDecode host)).bind fun name => DomainName.labels? name.toList with
    | none => .error .invalidHostName
    | some labels =>
      if labels == [[]] then .error .emptyHost
      else if endsInNumber labels && !isIPv4 labels then .error .invalidIPv4
      else .ok ()

/-- Checks a port: digits, if any, of a number of sixteen bits. -/
def checkPort (port : List Char) : Except UrlError Unit :=
  if port.all Char.isDigit && (port.foldl (fun n c => n * 10 + (c.toNat - 48)) 0) < 65536 then
    .ok ()
  else .error .invalidPort

/-- Checks a host with an optional port. -/
def checkHostAndPort (s : List Char) : Except UrlError Unit := do
  let host := hostPart false s
  checkHost host
  checkPort ((s.drop host.length).drop 1)

/-! ## Paths

A path is a text that starts with a slash, and grows segment by segment.  Its last segment is what
stands behind the last slash. -/

/-- The path up to its last slash. -/
def dropSegment (path : List Char) : List Char :=
  (path.reverse.dropWhile (· != '/')).reverse

/-- Whether a segment is a letter with a colon or a bar, which no double dot removes. -/
def isDrive (segment : List Char) : Bool :=
  match segment with
  | [c, mark] => c.isAlpha && (mark == ':' || mark == '|')
  | _ => false

/-- The path, which ends with a slash, without its last slash and the segment before that. -/
def shorten (path : List Char) : List Char :=
  let before := path.dropLast
  let parent := dropSegment before
  if parent.isEmpty || isDrive (before.drop parent.length) then path else parent

/-- The written forms of a single dot. -/
def isSingleDot (s : List Char) : Bool :=
  [".", "%2e", "%2E"].contains (String.ofList s)

/-- The written forms of a double dot. -/
def isDoubleDot (s : List Char) : Bool :=
  ["..", ".%2e", ".%2E", "%2e.", "%2E.", "%2e%2e", "%2e%2E", "%2E%2e", "%2E%2E"].contains
    (String.ofList s)

/-- A path, which ends with a slash, with a segment behind it.  A single dot adds nothing; a double
dot takes the last segment away. -/
def appendSegment (path segment : List Char) : List Char :=
  if isDoubleDot segment then shorten path
  else if isSingleDot segment then path
  else path ++ segment

/-- The path of an address: segments between slashes or backslashes, dots resolved. -/
def resolvePath (s : List Char) : List Char :=
  let s := s.map fun c => if c = '\\' then '/' else c
  let s := if s.head? = some '/' then s.drop 1 else s
  let segments := (Text.splitAt '/' s).map (percentEncode keptInPath)
  let opened := segments.dropLast.foldl
    (fun path segment =>
      let path := appendSegment path segment
      if isSingleDot segment || isDoubleDot segment then path else path ++ ['/'])
    ['/']
  appendSegment opened (segments.getLast?.getD [])

/-- Appends one segment; the two dot segments are left out.  The rules for dots hold for what is left
of a segment without the characters that are dropped. -/
def pushSegment (path : List Char) (segment : String) : List Char :=
  if segment = "." || segment = ".." then path
  else
    let opened := if path = ['/'] then path else path ++ ['/']
    let kept := segment.toList.filter fun c => !isDropped c
    appendSegment opened (percentEncode keptInSegment kept)

/-- The path without an empty last segment. -/
def popEmpty (path : List Char) : List Char :=
  if path.length > 1 && path.getLast? = some '/' then path.dropLast else path

/-- The address with segments appended to its path. -/
def withSegments (u : Url) (segments : List String) : Url :=
  { u with path := segments.foldl pushSegment (popEmpty u.path) }

/-- Path and query as they are sent. -/
def target (u : Url) : List Char :=
  u.path ++ match u.query with
    | some q => '?' :: q
    | none => []

/-! ## Reading -/

/-- Credentials and the rest of what stands before the path. -/
def splitCredentials (authority : List Char) :
    Except UrlError (List Char × Option (List Char) × List Char) :=
  match splitLast? '@' authority with
  | none => .ok ([], none, authority)
  | some (userinfo, host) =>
    if host.isEmpty then .error .emptyHost
    else
      let username := userinfo.takeWhile (· != ':')
      let password := (userinfo.drop username.length).drop 1
      .ok (username, if password.isEmpty then none else some password, host)

/-- Reads what follows the scheme and its slashes. -/
def ofAuthority? (s : List Char) : Except UrlError Url := do
  let s := s.filter fun c => !isDropped c
  let authority := s.takeWhile fun c => !endsAuthority c
  let rest := s.drop authority.length
  let (username, password, host) ← splitCredentials authority
  checkHostAndPort host
  let rest := rest.takeWhile (· != '#')
  let path := rest.takeWhile (· != '?')
  let query := rest.drop path.length
  return {
    username
    password
    path := resolvePath path
    query := if query.isEmpty then none else some (percentEncode keptInQuery (query.drop 1)) }

/-- Drops controls and blanks at the end. -/
def trimEndControls (s : List Char) : List Char :=
  (s.reverse.dropWhile fun c => c.toNat ≤ 0x20).reverse

/-- Reads an address that starts with `http:` or `https:` and slashes. -/
def ofText? (s : String) : Except UrlError Url :=
  let afterScheme := ((trimEndControls s.toList).dropWhile (· != ':')).drop 1
  ofAuthority? (afterScheme.dropWhile fun c => c == '/' || c == '\\' || isDropped c)

end Url

end CriteriaSearch.Http
