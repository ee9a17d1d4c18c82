import Steward.Net.Percent
import Steward.Net.Punycode
import Steward.Net.SocketAddress
/-!
# Addresses of resources

An address is read as browsers read it: blanks around it and line ends inside do not count, the
scheme and the host are put into lower case, what may not stand in the path or the query is
percent-encoded, and steps such as `.` and `..` are taken.  The schemes of the web allow a
backslash for a slash, and need a host.  Addresses of files are read in the same way, with or
without a host.
-/

set_option autoImplicit false

namespace Steward.Net

/-- An address without two slashes behind its scheme has no host; behind them the host may be
empty. -/
structure Url where
  scheme : String
  username : String
  password : Option String
  host : Option String
  port : Option Nat
  path : String
  query : Option String
  fragment : Option String
  deriving DecidableEq, Inhabited

namespace Url

def isControl (c : Char) : Bool := c.toNat < 32 || c.toNat ≥ 127

def isFragmentPlain (c : Char) : Bool := !isControl c && !" \"<>`".toList.contains c

def isPathPlain (c : Char) : Bool := isFragmentPlain c && !"#?\x7b\x7d".toList.contains c

def isUserPlain (c : Char) : Bool := isPathPlain c && !"/:;=@[\\]^|".toList.contains c

def isQueryPlain (special : Bool) (c : Char) : Bool :=
  !isControl c && !" \"#<>".toList.contains c && !(special && c == '\'')

def isOpaquePlain (c : Char) : Bool := !isControl c

def isForbidden (c : Char) : Bool := "\x00\t\n\r #/:<>?@[\\]^|".toList.contains c

def isForbiddenInWeb (c : Char) : Bool :=
  isForbidden c || c.toNat < 32 || c.toNat = 127 || c = '%'

def usualPort? (scheme : String) : Option Nat :=
  if scheme = "http" ∨ scheme = "ws" then some 80
  else if scheme = "https" ∨ scheme = "wss" then some 443
  else if scheme = "ftp" then some 21
  else none

def scheme? (chars : List Char) : Option (String × List Char) :=
  let scheme := chars.takeWhile fun c => c.isAlphanum || "+-.".toList.contains c
  match scheme, chars.drop scheme.length with
  | first :: _, ':' :: rest =>
    if first.isAlpha then some (String.ofList (scheme.map Char.toLower), rest) else none
  | _, _ => none

/-! ## Hosts -/

/-- A part of an address of numbers: decimal, octal with a leading zero, or hexadecimal. -/
def numberPart? : List Char → Option Nat
  | '0' :: x :: digits =>
    if x = 'x' ∨ x = 'X' then
      digits.foldlM (fun n c => return n * 16 + (← Json.hexDigit? c)) 0
    else if (x :: digits).all fun c => '0' ≤ c ∧ c ≤ '7' then
      some ((x :: digits).foldl (fun n c => n * 8 + (c.toNat - 48)) 0)
    else none
  | digits => Json.decimal? digits

/-- The parts between points; one point at the end does not count. -/
def dotParts (chars : List Char) : List (List Char) :=
  let parts := chars.splitOn '.'
  if 1 < parts.length ∧ parts.getLast? = some [] then parts.dropLast else parts

def endsInNumber (parts : List (List Char)) : Bool :=
  match parts.getLast? with
  | none => false
  | some last =>
    !last.isEmpty && (last.all Json.isDigit
      || (numberPart? last).isSome)

/-- The least of the addresses whose octets begin with these. -/
def leastWith (octets : List Nat) : Nat :=
  (octets ++ List.replicate (4 - octets.length) 0).foldl (fun sum octet => sum * 256 + octet) 0

def fourOctets? (parts : List Nat) : Option Nat :=
  match parts.reverse with
  | [] => none
  | last :: higher =>
    if parts.length ≤ 4 ∧ higher.all (· < 256) ∧ last < Nat.pow 256 (5 - parts.length) then
      some (leastWith higher.reverse + last)
    else none

def ofFourOctets (n : Nat) : String :=
  SocketAddress.dotted [n / 16777216 % 256, n / 65536 % 256, n / 256 % 256, n % 256]

/-- The text of a longer address, without a shorter one inside. -/
def ofGroups (groups : List Nat) : String :=
  let (start, length) := SocketAddress.longestZeros 0 groups
  if 1 < length then
    SocketAddress.colons (groups.take start) ++ "::"
      ++ SocketAddress.colons (groups.drop (start + length))
  else SocketAddress.colons groups

def bracketed? (chars : List Char) : Option String :=
  match SocketAddress.address? chars with
  | some (groups, [']']) => some ("[" ++ ofGroups groups ++ "]")
  | _ => none

def webHost? (chars : List Char) : Option String :=
  match chars with
  | '[' :: rest => bracketed? rest
  | _ =>
    let host := Punycode.ofHost (Utf8.decodeLossy (Percent.decode chars)).toList
    if host.isEmpty ∨ host.any isForbiddenInWeb then none
    else if endsInNumber (dotParts host) then do
      let parts ← (dotParts host).mapM numberPart?
      return ofFourOctets (← fourOctets? parts)
    else some (String.ofList host)

def otherHost? (chars : List Char) : Option String :=
  match chars with
  | '[' :: rest => bracketed? rest
  | _ =>
    if chars.any isForbidden then none
    else some (String.ofList (Percent.encode isOpaquePlain chars))

def port? : List Char → Option (Option Nat)
  | [] => some none
  | ':' :: [] => some none
  | ':' :: digits => (SocketAddress.bounded? 65536 digits).map some
  | _ => none

def splitUser (authority : List Char) : Option (List Char) × List Char :=
  let host := (authority.reverse.takeWhile (· != '@')).reverse
  if host.length = authority.length then (none, host)
  else (some (authority.take (authority.length - host.length - 1)), host)

def hostPart : List Char → List Char
  | '[' :: rest => '[' :: rest.takeWhile (· != ']') ++ (rest.dropWhile (· != ']')).take 1
  | chars => chars.takeWhile (· != ':')

def authority? (scheme : String) (authority : List Char) : Option Url := do
  let (user, place) := splitUser authority
  let host := hostPart place
  let port ← port? (place.drop host.length)
  -- Without a host there is neither a user nor a port.
  if host.isEmpty ∧ host.length < authority.length then none
  let host ← match usualPort? scheme with
    | some _ => webHost? host
    | none => otherHost? host
  let user := user.getD []
  let name := user.takeWhile (· != ':')
  let password := (user.drop name.length).drop 1
  return {
    scheme := scheme
    username := String.ofList (Percent.encode isUserPlain name)
    password := if password.isEmpty then none
      else some (String.ofList (Percent.encode isUserPlain password))
    host := some host
    port := if port = usualPort? scheme then none else port
    path := ""
    query := none
    fragment := none }

/-! ## Paths -/

def isSlash (special : Bool) (c : Char) : Bool := c == '/' || (special && c == '\\')

def pieces (special : Bool) : List Char → List (List Char)
  | [] => [[]]
  | c :: rest =>
    if isSlash special c then [] :: pieces special rest
    else
      match pieces special rest with
      | piece :: more => (c :: piece) :: more
      | [] => [[c]]

def plainPoints : List Char → List Char
  | '%' :: '2' :: e :: rest =>
    if e = 'e' ∨ e = 'E' then '.' :: plainPoints rest else '%' :: '2' :: e :: plainPoints rest
  | c :: rest => c :: plainPoints rest
  | [] => []

/-- The pieces that are left when all steps have been taken, the last one first. -/
def walk : List (List Char) → List (List Char) → List (List Char)
  | taken, [] => taken
  | taken, piece :: rest =>
    let isLast := rest.isEmpty
    if plainPoints piece = ['.', '.'] then
      walk (if isLast then [] :: taken.drop 1 else taken.drop 1) rest
    else if plainPoints piece = ['.'] then walk (if isLast then [] :: taken else taken) rest
    else walk (Percent.encode isPathPlain piece :: taken) rest

def walked (special : Bool) (chars : List Char) : String :=
  String.ofList ((walk [] (pieces special chars)).reverse.flatMap fun piece => '/' :: piece)

/-! ## Whole addresses -/

def ending (special : Bool) (chars : List Char) (url : Url) : Url :=
  let query := chars.takeWhile (· != '#')
  let fragment := chars.drop query.length
  { url with
    query := match query with
      | '?' :: query => some (String.ofList (Percent.encode (isQueryPlain special) query))
      | _ => none
    fragment := match fragment with
      | '#' :: fragment => some (String.ofList (Percent.encode isFragmentPlain fragment))
      | _ => none }

def isPathEnd (c : Char) : Bool := c == '?' || c == '#'

def afterHost (special : Bool) (rest : List Char) (url : Url) : Url :=
  let path := rest.takeWhile fun c => !isPathEnd c
  let walkedPath := match path with
    | [] => if special then "/" else ""
    | c :: pieces => walked special (if isSlash special c then pieces else path)
  ending special (rest.drop path.length) { url with path := walkedPath }

def afterSlashes (scheme : String) (rest : List Char) : Option Url := do
  let special := (usualPort? scheme).isSome
  let authority := rest.takeWhile fun c => !isSlash special c && !isPathEnd c
  return afterHost special (rest.drop authority.length) (← authority? scheme authority)

def bare (scheme : String) : Url := ⟨scheme, "", none, none, none, "", none, none⟩

def ofFile? (rest : List Char) : Option Url :=
  let plain := { bare "file" with host := some "" }
  match rest with
  | a :: b :: place =>
    if isSlash true a && isSlash true b then
      let host := place.takeWhile fun c => !isSlash true c && !isPathEnd c
      let rest := place.drop host.length
      if host.isEmpty then some (afterHost true rest plain)
      else (webHost? host).map fun host =>
        afterHost true rest { plain with host := some (if host = "localhost" then "" else host) }
    else some (afterHost true rest plain)
  | rest => some (afterHost true rest plain)

def withoutHost (scheme : String) (rest : List Char) : Url :=
  let path := rest.takeWhile fun c => !isPathEnd c
  ending false (rest.drop path.length) { bare scheme with
    path := match path with
      | '/' :: pieces => walked false pieces
      | path => String.ofList (Percent.encode isOpaquePlain path) }

def counted (text : String) : List Char :=
  let outer := fun (c : Char) => c.toNat ≤ 32
  ((text.toList.dropWhile outer).reverse.dropWhile outer).reverse.filter fun c =>
    c != '\t' && c != '\n' && c != '\r'

def ofText? (text : String) : Option Url := do
  let (scheme, rest) ← scheme? (counted text)
  if scheme = "file" then ofFile? rest
  else if (usualPort? scheme).isSome then afterSlashes scheme (rest.dropWhile (isSlash true))
  else
    match rest with
    | '/' :: '/' :: rest => afterSlashes scheme rest
    | rest => some (withoutHost scheme rest)

def target (url : Url) : String :=
  url.path ++ match url.query with
    | some query => "?" ++ query
    | none => ""

def hasHost (url : Url) : Bool := url.host.any (!·.isEmpty)

def canBeAsked (url : Url) : Bool :=
  url.host.all fun host => !host.toList.any "\"\x60\x7b\x7d".toList.contains

def isKnown (url : Url) : Bool := !url.username.isEmpty || url.password.isSome

def shownUser (url : Url) : String :=
  if url.isKnown then
    url.username ++ (match url.password with
      | some password => ":" ++ password
      | none => "") ++ "@"
  else ""

def shown (url : Url) : String :=
  url.scheme ++ ":"
    ++ (match url.host with
      | some host => "//" ++ url.shownUser ++ host ++ (match url.port with
          | some port => ":" ++ toString port
          | none => "")
      | none => "")
    ++ url.target
    ++ (match url.fragment with
      | some fragment => "#" ++ fragment
      | none => "")

def anonymous (url : Url) : Url := { url with username := "", password := none }

end Url

end Steward.Net
