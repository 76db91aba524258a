import NetSweep.Http.Host

/-!
# URLs

Reading a URL brings it into its normal form, which is what goes over the wire: scheme and host
in lower case, the scheme's default port left out, segments `.` and `..` resolved, and in every
part the characters that may not stand there percent-encoded.  In URLs of the web's own schemes a
backslash separates segments as a slash does, and any number of either may stand before the host.
A segment that names a drive, such as `C:`, has nothing above it.
-/

namespace NetSweep.Http

open Text (splitAt)

inductive UrlPath where
  /-- segments, each after a slash -/
  | segments (items : List String)
  /-- a path of a scheme that knows no segments -/
  | plain (text : String)
deriving DecidableEq, Repr

/-- A URL in normal form. -/
structure Url where
  scheme : String
  /-- the user name and password before the host, still encoded -/
  login : Option (String × Option String)
  /-- empty or missing where the URL names no host -/
  host : Option String
  /-- missing when it is the scheme's default -/
  port : Option Nat
  path : UrlPath
  query : Option String
  fragment : Option String
deriving DecidableEq, Repr

namespace Url

/-! ## Text -/

def pathText : UrlPath → String
  | .segments items => String.join (items.map ("/" ++ ·))
  | .plain text => text

def marked (mark : String) : Option String → String
  | none => ""
  | some part => mark ++ part

def decoded? (part : String) : Option String := Text.text? (percentDecode part.toList)

/-- The user name and password that go with a request: there are none if they cannot be read, or
if both are empty. -/
def credentials? (u : Url) : Option (String × Option String) :=
  u.login.bind fun (user, password) =>
    (decoded? user).bind fun user =>
      let password := password.bind decoded?
      if user = "" ∧ password = none then none else some (user, password)

/-- The login as it stands in the text: it stays there only if it does not go with the request. -/
def loginText (u : Url) : String :=
  match u.login with
  | none => ""
  | some (user, password) =>
    if u.credentials?.isSome then "" else user ++ marked ":" password ++ "@"

/-- What is in front of the port and the path.  Where there is no host, two slashes at the
beginning of the path must not be read as its mark. -/
def hostText (u : Url) : String :=
  match u.host, u.path with
  | some host, _ => "//" ++ u.loginText ++ host
  | none, .segments ("" :: _ :: _) => "/."
  | none, _ => ""

def text (u : Url) : String :=
  u.scheme ++ ":" ++ u.hostText ++ marked ":" (u.port.map Decimal.natText)
    ++ pathText u.path ++ marked "?" u.query ++ marked "#" u.fragment

def hasHost (u : Url) : Bool := u.host.isSome && u.host ≠ some ""

def isHttp (u : Url) : Bool := u.scheme = "http" || u.scheme = "https"

def maxSent : Nat := 65534

/-- Whether the URL can stand in a request: it is not too long, and its host holds none of the
characters that names may hold and requests may not. -/
def fitsRequest (u : Url) : Bool :=
  (u.host.getD "").toList.all (fun c => ¬ c ∈ ['"', '\x60', '\x7b', '\x7d'])
    && u.text.utf8ByteSize ≤ maxSent

/-! ## Paths -/

def lowerAscii (cs : List Char) : List Char := cs.map Char.toLower

def isSingleDot (segment : List Char) : Bool :=
  [".", "%2e"].contains (String.ofList (lowerAscii segment))

def isDoubleDot (segment : List Char) : Bool :=
  ["..", ".%2e", "%2e.", "%2e%2e"].contains (String.ofList (lowerAscii segment))

def isDrive : List Char → Bool
  | [letter, mark] => letter.isAlpha && (mark = ':' || mark = '|')
  | _ => false

/-- Whether a segment is, or with a backslash after it begins with, the name of a drive. -/
def standsForDrive : List Char → Bool
  | letter :: mark :: '\\' :: _ => isDrive [letter, mark]
  | segment => isDrive segment

/-- The segments above the last of some, which are in reverse; nothing is above a drive. -/
def above (segments : List (List Char)) : List (List Char) :=
  match segments with
  | [] => []
  | segment :: rest => if standsForDrive segment then segment :: rest else rest

/-- Puts a segment below others, which are in reverse.  The first segment of a file's path may be
a drive, which is written with a colon. -/
def below (file : Bool) (segments : List (List Char)) (segment : List Char) :
    List (List Char) :=
  if file ∧ segments = [] ∧ isDrive segment then [segment.take 1 ++ [':']]
  else segment :: segments

/-- Segments with those that move resolved, onto the ones found before, which are in reverse.  A
path that ends in one that moves ends in an empty segment. -/
def resolve (file : Bool) (found : List (List Char)) : List (List Char) → List (List Char)
  | [] => found.reverse
  | [last] =>
    if isDoubleDot last then ([] :: above found).reverse
    else if isSingleDot last then ([] :: found).reverse
    else (below file found last).reverse
  | segment :: rest =>
    if isDoubleDot segment then resolve file (above found) rest
    else if isSingleDot segment then resolve file found rest
    else resolve file (below file found segment) rest

def isSlash (special : Bool) (c : Char) : Bool := c = '/' || (special && c = '\\')

def dropSlash (special : Bool) (cs : List Char) : List Char :=
  match cs with
  | c :: rest => if isSlash special c then rest else c :: rest
  | [] => []

def encodedParts (special : Bool) (cs : List Char) : List (List Char) :=
  (splitAt (isSlash special) cs).map (percentEncode .path)

/-- The segments of a path in normal form; a separator at its beginning belongs to the first. -/
def segmentsOf (special : Bool) (cs : List Char) : List String :=
  (resolve false [] (encodedParts special (dropSlash special cs))).map String.ofList

/-! ## Reading -/

def defaultPorts : List (String × Nat) :=
  [("http", 80), ("https", 443), ("ws", 80), ("wss", 443), ("ftp", 21)]

def isSpecial (scheme : String) : Bool := (Assoc.find? scheme defaultPorts).isSome

def inScheme (c : Char) : Bool := c.isAlphanum || ['+', '-', '.'].contains c

def scheme? : List Char → Option (String × List Char)
  | c :: rest =>
    if c.isAlpha then
      match rest.dropWhile inScheme with
      | ':' :: after => some (String.ofList (lowerAscii (c :: rest.takeWhile inScheme)), after)
      | _ => none
    else none
  | [] => none

def cutAtLast (separator : Char) (cs : List Char) : Option (List Char) × List Char :=
  let after := (cs.reverse.takeWhile (· ≠ separator)).reverse
  if after.length < cs.length then (some (cs.take (cs.length - after.length - 1)), after)
  else (none, cs)

def cutAtFirst (separator : Char) (cs : List Char) : List Char × Option (List Char) :=
  match cs.dropWhile (· ≠ separator) with
  | _ :: after => (cs.takeWhile (· ≠ separator), some after)
  | [] => (cs, none)

/-- A user name and password, encoded; there are none if both are empty, and an empty password
counts as none. -/
def loginOf (cs : List Char) : Option (String × Option String) :=
  let encoded (part : List Char) := String.ofList (percentEncode .userinfo part)
  let (user, password) := cutAtFirst ':' cs
  let password := password.getD []
  if user.isEmpty ∧ password.isEmpty then none
  else some (encoded user, if password.isEmpty then none else some (encoded password))

/-- The host of an authority and, after a colon outside of brackets, its port. -/
def cutPort : (bracketed : Bool) → List Char → List Char × Option (List Char)
  | _, [] => ([], none)
  | bracketed, c :: rest =>
    if c = ':' ∧ bracketed = false then ([], some rest)
    else
      let within := if c = '[' then true else if c = ']' then false else bracketed
      let (host, port) := cutPort within rest
      (c :: host, port)

def port? (scheme : String) : Option (List Char) → Option (Option Nat)
  | none | some [] => some none
  | some cs =>
    (Host.digitsOf? 10 cs).bind fun ds =>
      let n := Host.valueOf 10 ds
      if 65535 < n then none
      else if Assoc.find? scheme defaultPorts = some n then some none
      else some (some n)

structure Authority where
  login : Option (String × Option String)
  host : Option String
  port : Option Nat

def Authority.none : Authority := { login := .none, host := .none, port := .none }

def isForbiddenPlain (c : Char) : Bool :=
  ['\x00', '\t', '\n', '\r', ' ', '#', '/', ':', '<', '>', '?', '@', '[', '\\', ']', '^',
    '|'].contains c

/-- The host of a URL: a name or an address or, if the scheme is unknown, any text. -/
def host? (special : Bool) (cs : List Char) : Option String :=
  if special ∨ cs.head? = some '[' then Host.parse? cs
  else if cs.any isForbiddenPlain then none
  else some (String.ofList (percentEncode .control cs))

/-- Reads an authority.  A backslash ends a port; what stands from there on is left over. -/
def authority? (scheme : String) (special : Bool) (cs : List Char) :
    Option (Authority × List Char) :=
  let (before, rest) := cutAtLast '@' cs
  let login := before.bind loginOf
  let (host, port) := cutPort false rest
  let digits := port.map (·.takeWhile (· ≠ '\\'))
  (host? special host).bind fun host =>
    (port? scheme digits).bind fun number =>
      if host = "" ∧ (before = some [] ∨ login.isSome ∨ port.isSome) then none
      else
        some ({ login, host := some host, port := number },
          (port.getD []).dropWhile (· ≠ '\\'))

/-- What follows an authority: the path as it is written, then query and fragment, encoded. -/
def cutPath (special : Bool) (cs : List Char) : List Char × Option String × Option String :=
  let (cs, fragment) := cutAtFirst '#' cs
  let (path, query) := cutAtFirst '?' cs
  (path,
    query.map fun q =>
      String.ofList (percentEncode (if special then .specialQuery else .query) q),
    fragment.map fun f => String.ofList (percentEncode .fragment f))

def finish (scheme : String) (special : Bool) (authority : Authority) (pathOf : List Char → UrlPath)
    (cs : List Char) : Url :=
  let (path, query, fragment) := cutPath special cs
  { scheme, login := authority.login, host := authority.host, port := authority.port
    path := pathOf path, query, fragment }

/-- The path of a URL with segments; only the web's own schemes have one where nothing is
written. -/
def segmented (special : Bool) (cs : List Char) : UrlPath :=
  if cs.isEmpty ∧ special = false then .segments [] else .segments (segmentsOf special cs)

def plain (cs : List Char) : UrlPath := .plain (String.ofList (percentEncode .control cs))

def endsAuthority (special : Bool) (c : Char) : Bool := isSlash special c || c = '?' || c = '#'

def cutAuthority (special : Bool) (cs : List Char) : List Char × List Char :=
  (cs.takeWhile fun c => !endsAuthority special c, cs.dropWhile fun c => !endsAuthority special c)

def withAuthority? (scheme : String) (special : Bool) (cs : List Char) : Option Url :=
  let (found, rest) := cutAuthority special cs
  (authority? scheme special found).map fun (authority, left) =>
    finish scheme special authority (segmented special) (left ++ rest)

/-! ## Files -/

/-- The URL of a file on a host; `rooted` says that a separator at the beginning of its path
belongs to the first segment.  A path on a drive is on no other host, and empty segments at the
beginning do not count. -/
def onHost (host : String) (rooted : Bool) (cs : List Char) : Url :=
  let (path, query, fragment) := cutPath true cs
  let segments := resolve true [] (encodedParts true (if rooted then dropSlash true path else path))
  let shown := segments.dropWhile List.isEmpty
  { scheme := "file", login := none
    host := some (if segments.head?.any isDrive then "" else host), port := none
    path := .segments ((if shown.isEmpty then [[]] else shown).map String.ofList)
    query, fragment }

/-- The URL of a file.  Two slashes may introduce a host; without one, a slash before the path
counts as an empty segment. -/
def file? (cs : List Char) : Option Url :=
  match cs with
  | first :: second :: rest =>
    if isSlash true first ∧ isSlash true second then
      let (host, path) := cutAuthority true rest
      if isDrive host then some (onHost "" false rest)
      else if host.isEmpty then some (onHost "" false path)
      else
        (Host.parse? host).map fun host =>
          if host = "localhost" then onHost "" false path else onHost host true path
    else some (onHost "" true cs)
  | cs => some (onHost "" true cs)

/-! ## Any URL -/

def isMargin (c : Char) : Bool := c.toNat ≤ 0x20

def stripped (cs : List Char) : List Char :=
  let cs := ((cs.dropWhile isMargin).reverse.dropWhile isMargin).reverse
  cs.filter (fun c => c ≠ '\t' && c ≠ '\n' && c ≠ '\r')

def parse? (text : String) : Option Url :=
  (scheme? (stripped text.toList)).bind fun (scheme, rest) =>
    if scheme = "file" then file? rest
    else if isSpecial scheme then withAuthority? scheme true (rest.dropWhile (isSlash true))
    else
      match rest with
      | '/' :: '/' :: rest => withAuthority? scheme false rest
      | '/' :: _ => some (finish scheme false .none (segmented false) rest)
      | _ => some (finish scheme false .none plain rest)

example : (parse? "HTTP://NSX.local:80/a/../C:/../b?x#y").map text
    = some "http://nsx.local/C:/b?x#y" := by cbv
example : (parse? "file://h/C|/x").map text = some "file:///C:/x" := by cbv
example : (parse? "foo:/..//x").map text = some "foo:/.//x" := by cbv

def withPairs (u : Url) (pairs : List (String × String)) : Url :=
  if pairs.isEmpty then (if u.query = some "" then { u with query := none } else u)
  else
    let added := String.ofList (encodePairs pairs)
    { u with query := some (match u.query with
        | none | some "" => added
        | some q => q ++ "&" ++ added) }

end Url

end NetSweep.Http
