import Reindex.Url.Host

/-!
# URLs

`Url.read?` reads an absolute URL as a browser does: blanks around it and line breaks in it are
dropped, backslashes count as slashes where the scheme is a special one, dot segments are resolved,
and what may not stand in a part is encoded. `Url.text` writes it. `Url.extend` adds segments to the
path.
-/

namespace Reindex

/-- A URL in its parts, each encoded. A path that can be extended begins with a slash, or is empty
behind an authority. -/
structure Url where
  scheme : String
  username : List Char := []
  password : List Char := []
  /-- None if the URL has no authority. -/
  host : Option (List Char)
  port : Option Nat := none
  path : List Char
  /-- The path is written behind `/.`, so that two slashes at its beginning are not taken for an
  authority. -/
  shielded : Bool := false
  query : Option (List Char) := none
  fragment : Option (List Char) := none
deriving DecidableEq, Repr

namespace Url

open Text

/-- The port number that a scheme implies. -/
def defaultPort? : String → Option Nat
  | "http" | "ws" => some 80
  | "https" | "wss" => some 443
  | "ftp" => some 21
  | _ => none

/-- Schemes whose URLs all have a host and a path of segments. -/
def isSpecial (scheme : String) : Bool := (defaultPort? scheme).isSome || scheme == "file"

/-- A slash, or a backslash where that counts as one. -/
def isSlash (special : Bool) (c : Char) : Bool := c == '/' || (special && c == '\\')

/-! ## Paths -/

/-- A segment that stands for the one it is in. -/
def isDot (seg : List Char) : Bool := String.ofList (seg.map Char.toLower) ∈ [".", "%2e"]

/-- A segment that stands for the one before. -/
def isDoubleDot (seg : List Char) : Bool :=
  String.ofList (seg.map Char.toLower) ∈ ["..", ".%2e", "%2e.", "%2e%2e"]

/-- A text that begins with the letter of a drive: a letter with a colon or a bar, and no more
before the next slash. -/
def startsWithDrive : List Char → Bool
  | letter :: mark :: rest => letter.isAlpha && (mark == ':' || mark == '|') && rest.head?.all
      (isSlash true)
  | _ => false

/-- A path that ends in a slash which is not that of the root or of a drive. -/
def hasSpareSlash (path : List Char) : Bool :=
  match path.reverse with
  | '/' :: before =>
    '/' ∈ before && !startsWithDrive ((before.takeWhile (· ≠ '/')).reverse ++ ['/'])
  | _ => false

/-- A path that ends in a slash, without its last segment. The segment of a drive stays. -/
def stepBack (path : List Char) : List Char :=
  ((if hasSpareSlash path then path.dropLast else path).reverse.dropWhile (· ≠ '/')).reverse

/-- A path that ends in a slash with one more piece, and perhaps the slash behind it. Where a piece is
the letter of a drive its bar stays as it is. -/
def addPiece (inSet : Char → Bool) (path piece : List Char) (slash : Bool) : List Char :=
  let segment := percentEncode inSet piece
  if isDoubleDot segment then stepBack path
  else if isDot segment then path
  else path ++ segment ++ (if slash then ['/'] else [])

/-- A path with all pieces of a text added, which stand between slashes. -/
def addPieces (path : List Char) : List (List Char) → List Char
  | [] => path
  | [last] => addPiece inPathSet path last false
  | piece :: rest => addPieces (addPiece inPathSet path piece true) rest

/-- A path from its text. The slash in front may be missing. -/
def readPath (special : Bool) (cs : List Char) : List Char :=
  let cs := if special then cs.map fun c => if c = '\\' then '/' else c else cs
  addPieces ['/'] (splitOn '/' (if cs.head? = some '/' then cs.tail else cs))

/-- A path with one slash in front, as the scheme `file` has it. -/
def trimRoot (path : List Char) : List Char := '/' :: path.dropWhile (· = '/')

/-! ## Reading -/

/-- The text before the first character with a property, and the text from it on. -/
def breakAt (p : Char → Bool) (cs : List Char) : List Char × List Char :=
  (cs.takeWhile (!p ·), cs.dropWhile (!p ·))

/-- Splits off a fragment and then a query. -/
def splitTail (special : Bool) (cs : List Char) :
    List Char × Option (List Char) × Option (List Char) :=
  let (front, hash) := breakAt (· == '#') cs
  let (body, question) := breakAt (· == '?') front
  (body, question.tail?.map (percentEncode (inQuerySet special)),
    hash.tail?.map (percentEncode inFragmentSet))

/-- User name and password, and what stands behind the last `@`. An `@` alone before anything else
is refused. -/
def splitUserinfo? (authority rest : List Char) : Option (List Char × List Char) :=
  if '@' ∉ authority then some ([], authority)
  else if authority = ['@'] ∧ !rest.isEmpty then none
  else
    let behind := (authority.reverse.takeWhile (· ≠ '@')).reverse
    some (authority.take (authority.length - behind.length - 1), behind)

/-- An authority cut at the colon before its port number; a colon within brackets belongs to the
host. -/
def splitPort (inBrackets : Bool) : List Char → List Char × Option (List Char)
  | [] => ([], none)
  | c :: rest =>
    if c = ':' ∧ !inBrackets then ([], some rest)
    else
      let r := splitPort (if c = '[' then true else if c = ']' then false else inBrackets) rest
      (c :: r.1, r.2)

/-- The port number that digits write, unless the scheme implies it. The outer option is none if it
is too large, or no number. -/
def readPort? (scheme : String) (cs : List Char) : Option (Option Nat) :=
  if !cs.all Char.isDigit then none
  else
    let n := Nat.ofDigitChars 10 cs 0
    if n > 65535 then none
    else some (if cs.isEmpty ∨ defaultPort? scheme = some n then none else some n)

/-- A URL from its authority and what follows. A host may be left out where the scheme is no special
one and nothing else is in the authority. -/
def readAuthority? (scheme : String) (cs : List Char) : Option Url := do
  let special := isSpecial scheme
  let (authority, rest) := breakAt (fun c => isSlash special c || c == '?' || c == '#') cs
  let (userinfo, hostPort) ← splitUserinfo? authority rest
  let (username, password) := breakAt (· == ':') userinfo
  let (hostText, portText) := splitPort false hostPort
  let host ← if special then Host.read? hostText
    else if hostText.isEmpty then
      (if username.isEmpty ∧ password.length < 2 ∧ portText.isNone then some [] else none)
    else Host.readOpaque? hostText
  let (portDigits, more) := breakAt (· == '\\') (portText.getD [])
  let port ← readPort? scheme portDigits
  let (body, query, fragment) := splitTail special (more ++ rest)
  return {
    scheme, host := some host, port, query, fragment
    username := percentEncode inUserinfoSet username
    password := percentEncode inUserinfoSet (password.drop 1)
    path := if body.isEmpty ∧ !special then [] else readPath special body }

/-- A host that has the form of a drive is the beginning of a path. -/
def isDrive (host : List Char) : Bool := startsWithDrive host && host.length == 2

/-- A path within a drive. -/
def isDrivePath : List Char → Bool
  | '/' :: letter :: ':' :: rest => startsWithDrive (letter :: ':' :: rest)
  | _ => false

/-- A URL of the scheme `file` from what follows the colon. A drive is on no host, nor is what is on
the host `localhost`. -/
def readFile? (cs : List Char) : Option Url := do
  let slash := isSlash true
  let (hostText, rest) := match cs with
    | a :: b :: rest =>
      if slash a && slash b then breakAt (fun c => slash c || c == '?' || c == '#') rest
      else ([], cs)
    | _ => ([], cs)
  let (hostText, rest) := if isDrive hostText then ([], hostText ++ rest) else (hostText, rest)
  let host ← if hostText.isEmpty then some [] else Host.read? hostText
  let (body, query, fragment) := splitTail true rest
  let path := readPath true body
  let isLocal := isDrivePath path || host == "localhost".toList
  return { scheme := "file", host := some (if isLocal then [] else host), path := trimRoot path, query, fragment }

/-- A URL from its scheme and what follows the colon. -/
def readScheme? (scheme : String) (cs : List Char) : Option Url :=
  if scheme = "file" then readFile? cs
  else if isSpecial scheme then readAuthority? scheme (cs.dropWhile (isSlash true))
  else
    match cs with
    | '/' :: '/' :: rest => readAuthority? scheme rest
    | '/' :: rest =>
      let (body, query, fragment) := splitTail false rest
      let path := readPath false ('/' :: body)
      some { scheme, host := none, path, shielded := path.take 2 = ['/', '/'], query, fragment }
    | rest =>
      let (body, query, fragment) := splitTail false rest
      some { scheme, host := none, path := percentEncode isControl body, query, fragment }

def isSchemeChar (c : Char) : Bool := c.isAlphanum || c == '+' || c == '-' || c == '.'

/-- Characters that are dropped from a URL wherever they stand. -/
def isDropped (c : Char) : Bool := c == '\t' || c == '\n' || c == '\r'

/-- Characters that are dropped at both ends of a URL. -/
def isOuterBlank (c : Char) : Bool := c.toNat ≤ 0x20

/-- The URL that a text writes; none if it writes none, or one that is relative to another. -/
def read? (s : String) : Option Url := do
  let cs := ((s.toList.dropWhile isOuterBlank).reverse.dropWhile isOuterBlank).reverse
  let cs := cs.filter (!isDropped ·)
  let (scheme, rest) := breakAt (!isSchemeChar ·) cs
  match scheme, rest with
  | c :: _, ':' :: rest =>
    if c.isAlpha then readScheme? (String.ofList (scheme.map Char.toLower)) rest else none
  | _, _ => none

/-! ## Writing -/

/-- User name and password with their marks, if there are any. -/
def userinfoText (u : Url) : List Char :=
  if u.username.isEmpty ∧ u.password.isEmpty then []
  else u.username ++ (if u.password.isEmpty then [] else ':' :: u.password) ++ ['@']

def text (u : Url) : String :=
  String.ofList <|
    u.scheme.toList ++ ':' ::
      (match u.host with
        | some host =>
          ['/', '/'] ++ u.userinfoText ++ host ++
            ((u.port.map fun p => ':' :: Nat.toDigits 10 p).getD [])
        | none => []) ++
      (if u.shielded then ['/', '.'] else []) ++ u.path ++
      ((u.query.map ('?' :: ·)).getD []) ++ ((u.fragment.map ('#' :: ·)).getD [])

/-! ## Extending the path -/

/-- A URL whose path is one text and no list of segments. -/
def isOpaque (u : Url) : Bool := u.path.head? ≠ some '/' && !(u.host.isSome)

/-- A path without its last slash, unless that is all there is. -/
def popEmpty (path : List Char) : List Char :=
  if path.length > 1 ∧ path.getLast? = some '/' then path.dropLast else path

/-- A path with one more segment. The segments `.` and `..` are left out, and characters that are
dropped from URLs are dropped here too. -/
def pushSegment (scheme : String) (path : List Char) (segment : String) : List Char :=
  if segment = "." ∨ segment = ".." then path
  else
    let path := if path.length = 1 then path else path ++ ['/']
    let path := addPiece (inSegmentSet (isSpecial scheme)) path
      (segment.toList.filter (!isDropped ·)) false
    if scheme = "file" then trimRoot path else path

/-- The URL with segments added to its path, in place of an empty last one. -/
def extend (u : Url) (segments : List String) : Url :=
  { u with path := segments.foldl (pushSegment u.scheme) (popEmpty u.path) }

end Url

end Reindex
