import ControlPlane.Text.Blank
import ControlPlane.Url.Form
import ControlPlane.Url.Host

/-!
# URLs

`Url.parse` reads a URL by the rules of the web: it forgives missing and surplus slashes,
backslashes and invisible characters for the schemes it knows, and normalises what it reads. A URL
is kept in parts, each already encoded, and `Url.text` joins them.
-/

namespace ControlPlane

open Url

structure Url where
  scheme : String
  username : String := ""
  password : Option String := none
  host : Option Host := none
  port : Option Nat := none
  path : String := ""
  query : Option String := none
  fragment : Option String := none
  deriving DecidableEq, Repr

namespace Url

/-- The port of a scheme that needs not be written. -/
def defaultPort? (scheme : String) : Option Nat :=
  if scheme = "http" ∨ scheme = "ws" then some 80
  else if scheme = "https" ∨ scheme = "wss" then some 443
  else if scheme = "ftp" then some 21
  else none

/-- Whether a scheme has forgiving rules and always a host; files apart. -/
def isSpecialScheme (scheme : String) : Bool :=
  (defaultPort? scheme).isSome

/-- Tab, line feed or carriage return, which stand for nothing anywhere. -/
def isSkipped (c : Char) : Bool :=
  c = '\t' || c = '\n' || c = '\r'

/-- A control character or a space, which stand for nothing at the ends. -/
def isEdge (c : Char) : Bool :=
  c.toNat ≤ 0x20

/-- The characters of a text that count. -/
def significant (text : List Char) : List Char :=
  (Text.dropEndWhile isEdge (text.dropWhile isEdge)).filter fun c => !isSkipped c

/-- The characters of a scheme after its first. -/
def isSchemeChar (c : Char) : Bool :=
  c.isAlphanum || c = '+' || c = '-' || c = '.'

/-- The scheme at the start, in lower case, and what follows its colon. -/
def takeScheme (text : List Char) : Option (String × List Char) :=
  match text with
  | [] => none
  | c :: rest =>
    if c.isAlpha then
      match rest.dropWhile isSchemeChar with
      | ':' :: after =>
        some (String.ofList ((c :: rest.takeWhile isSchemeChar).map Char.toLower), after)
      | _ => none
    else none

/-- A slash, or a backslash where it counts as one. -/
def isSlash (special : Bool) (c : Char) : Bool :=
  c = '/' || (special && c = '\\')

/-- The characters that end an authority. -/
def endsAuthority (special : Bool) (c : Char) : Bool :=
  isSlash special c || c = '?' || c = '#'

/-- User name and password before the last `@`. -/
structure UserInfo where
  username : String := ""
  password : Option String := none

/-- The user name and the password of a text: the password follows the first colon, and an empty one
is none. -/
def userInfo (text : List Char) : UserInfo :=
  let encode (part : List Char) : String := String.ofList (encodeText inUserSet part)
  let password := (text.dropWhile (· ≠ ':')).drop 1
  { username := encode (text.takeWhile (· ≠ ':'))
    password := if password.isEmpty then none else some (encode password) }

/-- Cuts an authority at its last `@`. -/
def cutUserInfo (authority : List Char) : Option (List Char × List Char) :=
  if authority.contains '@' then
    let after := (authority.reverse.takeWhile (· ≠ '@')).reverse
    some (authority.take (authority.length - after.length - 1), after)
  else none

/-- Cuts a host from the port after it: at the first colon outside brackets. -/
def cutPort (inBrackets : Bool) : List Char → List Char × Option (List Char)
  | [] => ([], none)
  | c :: rest =>
    if c = ':' ∧ !inBrackets then ([], some rest)
    else
      let inner := if c = '[' then true else if c = ']' then false else inBrackets
      let (host, port) := cutPort inner rest
      (c :: host, port)

/-- The port that digits write; none for the default one and for no digits. -/
def parsePort (scheme : String) (digits : List Char) : Except UrlError (Option Nat) :=
  if digits.all fun c => '0' ≤ c && c ≤ '9' then
    let port := digits.foldl (fun acc c => acc * 10 + (c.toNat - 0x30)) 0
    if 65535 < port then .error .invalidPort
    else if digits.isEmpty ∨ defaultPort? scheme = some port then .ok none
    else .ok (some port)
  else .error .invalidPort

/-- Whether a segment stands for its directory. -/
def isSingleDot (segment : List Char) : Bool :=
  let lower := segment.map Char.toLower
  lower = ['.'] || lower = "%2e".toList

/-- Whether a segment stands for the directory above. -/
def isDoubleDot (segment : List Char) : Bool :=
  let lower := segment.map Char.toLower
  lower = ['.', '.'] || lower = "%2e.".toList || lower = ".%2e".toList || lower = "%2e%2e".toList

/-- Cuts a path into segments. -/
def splitSegments (special : Bool) : List Char → List (List Char)
  | [] => [[]]
  | c :: rest =>
    if isSlash special c then [] :: splitSegments special rest
    else match splitSegments special rest with
      | [] => [[c]]
      | segment :: segments => (c :: segment) :: segments

/-- Whether a segment names a drive: a letter, and a colon or a bar. -/
def isDrive (segment : List Char) : Bool :=
  match segment with
  | [letter, mark] => letter.isAlpha && (mark = ':' || mark = '|')
  | _ => false

/-- The segments that remain when a segment stands for the directory above: a drive is not left. -/
def parentOf (stack : List (List Char)) : List (List Char) :=
  if stack.head?.any isDrive then stack else stack.drop 1

/-- Adds a segment. A drive that starts the path of a file is written with a colon. -/
def pushSegment (isFile : Bool) (stack : List (List Char)) (segment : List Char) :
    List (List Char) :=
  if isFile && stack.isEmpty && isDrive segment then [segment.take 1 ++ [':']]
  else encodeText inPathSet segment :: stack

/-- Resolves dots: the segments of the path, last first. -/
def resolveSegments (isFile : Bool) (stack : List (List Char)) :
    List (List Char) → List (List Char)
  | [] => stack
  | [last] =>
    if isDoubleDot last then [] :: parentOf stack
    else if isSingleDot last then [] :: stack
    else pushSegment isFile stack last
  | segment :: rest =>
    if isDoubleDot segment then resolveSegments isFile (parentOf stack) rest
    else if isSingleDot segment then resolveSegments isFile stack rest
    else resolveSegments isFile (pushSegment isFile stack segment) rest

/-- The path of resolved segments, last first. -/
def pathOf (stack : List (List Char)) : List Char :=
  stack.reverse.flatMap ('/' :: ·)

/-- The path of segments given after the first slash. -/
def resolvePath (special : Bool) (text : List Char) : String :=
  String.ofList (pathOf (resolveSegments false [] (splitSegments special text)))

/-- The characters that end a path. -/
def endsPath (c : Char) : Bool :=
  c = '?' || c = '#'

/-- Reads query and fragment after a path. -/
def withTail (url : Url) (special : Bool) (text : List Char) : Url :=
  let withFragment (url : Url) : List Char → Url
    | '#' :: fragment =>
      { url with fragment := some (String.ofList (encodeText inFragmentSet fragment)) }
    | _ => url
  match text with
  | '?' :: rest =>
    let query := encodeText (inQuerySet special) (rest.takeWhile (· ≠ '#'))
    withFragment { url with query := some (String.ofList query) } (rest.dropWhile (· ≠ '#'))
  | rest => withFragment url rest

/-- Reads path, query and fragment after an authority. -/
def withRest (url : Url) (special : Bool) (text : List Char) : Url :=
  let pathText := text.takeWhile fun c => !endsPath c
  let path := match pathText with
    | [] => if special then "/" else ""
    | c :: rest =>
      if isSlash special c then resolvePath special rest else resolvePath special (c :: rest)
  withTail { url with path := path } special (text.dropWhile fun c => !endsPath c)

/-- Reads what follows the slashes before an authority. A backslash ends a port in any case, where
otherwise it may be but a character of the host. -/
def parseAuthority (scheme : String) (special : Bool) (text : List Char) : Except UrlError Url := do
  let authority := text.takeWhile fun c => !endsAuthority special c
  let rest := text.dropWhile fun c => !endsAuthority special c
  let (info, location) := (cutUserInfo authority).getD ([], authority)
  let hasMark := authority.contains '@'
  let user := userInfo info
  if hasMark ∧ info.isEmpty ∧ location.isEmpty ∧ !rest.isEmpty then throw .emptyHost
  let (hostText, portText) := cutPort false location
  if special ∧ hostText.isEmpty then throw .emptyHost
  let host ← if special then Host.parse hostText else Host.parseOpaque hostText
  if hostText.isEmpty ∧ portText.isSome then throw .emptyHost
  let endsPort (c : Char) : Bool := c = '\\'
  let port ← match portText with
    | none => pure none
    | some text => parsePort scheme (text.takeWhile fun c => !endsPort c)
  let afterPort := (portText.getD []).dropWhile fun c => !endsPort c
  if hostText.isEmpty ∧ (!user.username.isEmpty ∨ user.password.isSome) then throw .emptyHost
  return withRest
    { scheme := scheme, username := user.username, password := user.password, host := some host,
      port := port } special (afterPort ++ rest)

/-- Reads path, query and fragment of a file. A path that starts with a drive has no host, and
slashes at its start count once. -/
def withFilePath (host : Option Host) (text : List Char) : Url :=
  let segments := splitSegments true (text.takeWhile fun c => !endsPath c)
  let stack := resolveSegments true [] segments
  let shown := if stack.getLast?.any isDrive then none else host
  let path := '/' :: (pathOf stack).dropWhile (· = '/')
  withTail { scheme := "file", host := some (shown.getD (.domain "")), path := String.ofList path }
    true (text.dropWhile fun c => !endsPath c)

/-- Reads what follows the scheme of a file. A drive in the place of the host belongs to the path.
-/
def parseFile (text : List Char) : Except UrlError Url := do
  let withoutSlash (text : List Char) : List Char :=
    if text.head?.any (isSlash true) then text.drop 1 else text
  match text with
  | a :: b :: rest =>
    if isSlash true a && isSlash true b then
      let hostText := rest.takeWhile fun c => !endsAuthority true c
      let pathText := rest.dropWhile fun c => !endsAuthority true c
      if isDrive hostText then return withFilePath none rest
      if hostText.isEmpty then return withFilePath none pathText
      let host ← Host.parse hostText
      if host = .domain "localhost" then return withFilePath none pathText
      return withFilePath (some host) (withoutSlash pathText)
    else return withFilePath none (withoutSlash text)
  | _ => return withFilePath none (withoutSlash text)

/-- Reads what follows a scheme without special rules. -/
def parsePlain (scheme : String) (text : List Char) : Except UrlError Url :=
  match text with
  | '/' :: '/' :: rest => parseAuthority scheme false rest
  | '/' :: rest => .ok (withRest { scheme := scheme } false ('/' :: rest))
  | _ =>
    let path := String.ofList (encodeText isControl (text.takeWhile fun c => !endsPath c))
    .ok (withTail { scheme := scheme, path := path } false (text.dropWhile fun c => !endsPath c))

def parse (text : String) : Except UrlError Url :=
  match takeScheme (significant text.toList) with
  | none => .error .noScheme
  | some (scheme, rest) =>
    if scheme = "file" then parseFile rest
    else if isSpecialScheme scheme then parseAuthority scheme true (rest.dropWhile (isSlash true))
    else parsePlain scheme rest

/-- User name and password before the host. -/
def userText (url : Url) : String :=
  match url.password with
  | some password => url.username ++ ":" ++ password ++ "@"
  | none => if url.username.isEmpty then "" else url.username ++ "@"

/-- What stands between scheme and path. -/
def authorityText (url : Url) : String :=
  match url.host with
  | some host =>
    "//" ++ url.userText ++ host.text ++ (url.port.elim "" fun port => ":" ++ toString port)
  | none => if "//".isPrefixOf url.path then "/." else ""

def text (url : Url) : String :=
  url.scheme ++ ":" ++ url.authorityText ++ url.path ++ (url.query.elim "" ("?" ++ ·)) ++
    (url.fragment.elim "" ("#" ++ ·))

/-- Adds pairs to the query. -/
def appendPairs (url : Url) (pairs : List (String × String)) : Url :=
  { url with query := some (String.ofList (Form.extend (url.query.getD "").toList pairs)) }

end Url

end ControlPlane
