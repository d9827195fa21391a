import TokenBridge.Text.Ascii
import TokenBridge.Url.Host

/-!
# URLs

A URL is read without a base. Blanks and control characters at its ends and
tabs and newlines anywhere do not count. The schemes `http`, `https`, `ws`,
`wss` and `ftp` are special: any number of slashes or backslashes leads to
their host, which is required, a backslash is a slash, their path is never
empty and their default port is not kept. `file` is special without a port.
Any other scheme has a host only behind `//`, and without a slash after the
scheme its path stands as it is. The segments `.` and `..` of a path are
resolved.
-/

namespace TokenBridge

namespace Url

inductive Kind where
  | special
  | file
  | other
  deriving DecidableEq, Repr

inductive Path where
  /-- A path that stands as it is. -/
  | verbatim (text : String)
  | segments (items : List String)
  deriving DecidableEq, Repr

end Url

structure Url where
  scheme : String
  username : String
  password : String
  host : Option Url.Host
  port : Option Nat
  path : Url.Path
  query : Option String
  fragment : Option String
  deriving DecidableEq, Repr

namespace Url

def kindOf (scheme : String) : Kind :=
  if ["http", "https", "ws", "wss", "ftp"].contains scheme then .special
  else if scheme = "file" then .file
  else .other

def defaultPort? (scheme : String) : Option Nat :=
  if scheme = "http" ∨ scheme = "ws" then some 80
  else if scheme = "https" ∨ scheme = "wss" then some 443
  else if scheme = "ftp" then some 21
  else none

def isEdge (c : Char) : Bool := decide (c.toNat ≤ 0x20)

/-- The characters that count. -/
def significant (s : String) : List Char :=
  let trimmed := ((s.toList.dropWhile isEdge).reverse.dropWhile isEdge).reverse
  trimmed.filter fun c => c != '\t' && c != '\n' && c != '\r'

def isSchemeChar (c : Char) : Bool :=
  c.isAlpha || c.isDigit || c == '+' || c == '-' || c == '.'

/-- The scheme in small letters, and what follows its colon. -/
def splitScheme? (cs : List Char) : Option (String × List Char) :=
  let scheme := cs.takeWhile isSchemeChar
  match scheme, cs.drop scheme.length with
  | c :: _, ':' :: rest =>
    if c.isAlpha then some (String.ofList (scheme.map Text.foldChar), rest) else none
  | _, _ => none

/-- The character separates segments of a path. -/
def isSlash (kind : Kind) (c : Char) : Bool := c == '/' || (kind != .other && c == '\\')

def endsAuthority (kind : Kind) (c : Char) : Bool := isSlash kind c || c == '?' || c == '#'

/-! ## Authority -/

/-- User name and password before the last `@`, and what follows it. -/
def splitUser (kind : Kind) (cs : List Char) :
    Except Error (String × String × Bool × List Char) :=
  let authority := cs.takeWhile (!endsAuthority kind ·)
  let behind := (authority.reverse.takeWhile (· != '@')).reverse
  if behind.length = authority.length then .ok ("", "", false, cs)
  else
    let user := authority.take (authority.length - behind.length - 1)
    let rest := cs.drop (user.length + 1)
    let name := user.takeWhile (· != ':')
    let password := user.drop (name.length + 1)
    if user.isEmpty && (rest.head?.any (endsAuthority kind)) then .error .emptyHost
    else .ok (encode .userinfo name, encode .userinfo password,
      !name.isEmpty || !password.isEmpty, rest)

/-- The characters of the host: up to a colon outside brackets or the end of the authority. -/
def hostChars (kind : Kind) : (inBrackets : Bool) → List Char → List Char
  | _, [] => []
  | inBrackets, c :: rest =>
    if (c == ':' && !inBrackets) || endsAuthority kind c then []
    else c :: hostChars kind (if c = '[' then true else if c = ']' then false else inBrackets) rest

/-- The port after a colon, and the rest. -/
def readPort (scheme : String) (cs : List Char) : Except Error (Option Nat × List Char) :=
  let digits := cs.takeWhile Char.isDigit
  let rest := cs.drop digits.length
  let port := (Number.digitsValue? digits).getD 0
  if 65535 < port then .error .invalidPort
  else if rest.head?.any (fun c => !endsAuthority .special c) then .error .invalidPort
  else .ok (if digits.isEmpty ∨ defaultPort? scheme = some port then none else some port, rest)

def readHostAndPort (scheme : String) (kind : Kind) (cs : List Char) :
    Except Error (Host × Option Nat × List Char) := do
  let host := hostChars kind false cs
  let rest := cs.drop host.length
  if host.isEmpty && (kind == .special || rest.head? == some ':') then throw .emptyHost
  let host ← if kind = .special then readHost host else readPlainHost host
  match rest with
  | ':' :: rest =>
    let (port, rest) ← readPort scheme rest
    return (host, port, rest)
  | _ => return (host, none, rest)

/-! ## Path -/

def isDoubleDot (s : String) : Bool :=
  ["..", "%2e%2e", "%2e.", ".%2e"].contains (Text.foldCase s)

def isSingleDot (s : String) : Bool := [".", "%2e"].contains (Text.foldCase s)

def splitSegments (kind : Kind) : List Char → List (List Char)
  | [] => [[]]
  | c :: rest =>
    if isSlash kind c then [] :: splitSegments kind rest
    else match splitSegments kind rest with
      | segment :: more => (c :: segment) :: more
      | [] => [[c]]

/-- Resolves segments, those done last first; a dot segment at the end leaves an empty one. -/
def resolve (done : List String) : List String → List String
  | [] => done.reverse
  | s :: rest =>
    if isDoubleDot s then
      resolve (if rest.isEmpty then "" :: done.drop 1 else done.drop 1) rest
    else if isSingleDot s then resolve (if rest.isEmpty then "" :: done else done) rest
    else resolve (s :: done) rest

/-- The path that the characters before a query or fragment stand for. -/
def readPath (kind : Kind) (cs : List Char) : Path :=
  match cs with
  | [] => .segments (if kind = .other then [] else [""])
  | c :: rest =>
    .segments (resolve [] ((splitSegments kind (if isSlash kind c then rest else c :: rest)).map
      (encode .path)))

/-! ## The whole -/

/-- The part before the first of two characters, and the rest from it on. -/
def splitAtAny (ends : Char → Bool) (cs : List Char) : List Char × List Char :=
  (cs.takeWhile (!ends ·), cs.dropWhile (!ends ·))

def readTail (kind : Kind) (cs : List Char) : Option String × Option String :=
  let (query, rest) := splitAtAny (· == '#') cs
  let part : Part := if kind = .other then .query else .specialQuery
  (match query with
    | '?' :: q => some (encode part q)
    | _ => none,
   match rest with
    | '#' :: f => some (encode .fragment f)
    | _ => none)

def readAuthority (scheme : String) (kind : Kind) (cs : List Char) : Except Error Url := do
  let (username, password, hasUser, rest) ← splitUser kind cs
  let (host, port, rest) ← readHostAndPort scheme kind rest
  if hasUser && host == .domain "" then throw .emptyHost
  let (path, tail) := splitAtAny (fun c => c == '?' || c == '#') rest
  let (query, fragment) := readTail kind tail
  return { scheme, username, password, host, port, path := readPath kind path, query, fragment }

def readRest (scheme : String) (kind : Kind) (host : Option Host) (cs : List Char) : Url :=
  let (path, tail) := splitAtAny (fun c => c == '?' || c == '#') cs
  let (query, fragment) := readTail kind tail
  let verbatim := kind == .other && path.head? != some '/'
  { scheme
    username := ""
    password := ""
    host
    port := none
    path := if verbatim then .verbatim (encode .verbatim path) else readPath kind path
    query
    fragment }

/-- The host of a file: the local one if it is empty or named so. -/
def readFileHost (cs : List Char) : Except Error (Host × List Char) :=
  let (host, rest) := splitAtAny (endsAuthority .file) cs
  if host.isEmpty then .ok (.domain "", rest)
  else (readHost host).map fun h => (if h = .domain "localhost" then .domain "" else h, rest)

def readFile (scheme : String) (cs : List Char) : Except Error Url :=
  match cs with
  | a :: b :: rest =>
    if isSlash .file a && isSlash .file b then
      (readFileHost rest).map fun (host, rest) => readRest scheme .file (some host) rest
    else .ok (readRest scheme .file (some (.domain "")) cs)
  | _ => .ok (readRest scheme .file (some (.domain "")) cs)

def read (s : String) : Except Error Url :=
  match splitScheme? (significant s) with
  | none => .error .relative
  | some (scheme, rest) =>
    match kindOf scheme with
    | .special => readAuthority scheme .special (rest.dropWhile (isSlash .special))
    | .file => readFile scheme rest
    | .other =>
      match rest with
      | '/' :: '/' :: rest => readAuthority scheme .other rest
      | _ => .ok (readRest scheme .other none rest)

/-- A parser of URLs: the URL that a text stands for, or what is wrong with the text. -/
abbrev Parser := String → Except String Url

/-- The reader of this module as a parser. It only comes near a full one in names outside ASCII:
they are mapped by case and width, without normalisation or the rules for joiners and for letters
that run from right to left, so that some hosts are taken that a full parser refuses and some
refused that it takes. -/
def parser : Parser := fun s => (read s).mapError Error.message

/-! ## Writing -/

def Path.text : Path → String
  | verbatim t => t
  | segments items => String.join (items.map ("/" ++ ·))

/-- User name and password before the host. -/
def userText (u : Url) : String :=
  if u.username.isEmpty && u.password.isEmpty then ""
  else
    u.username ++ (if u.password.isEmpty then "" else ":" ++ u.password) ++ "@"

/-- The host with its port, unless that is the default one. -/
def hostText (u : Url) : String :=
  (u.host.map Host.text).getD "" ++ (match u.port with
    | some p => ":" ++ Number.decimal p
    | none => "")

def authorityText (u : Url) : String :=
  match u.host, u.path with
  | some _, _ => "//" ++ u.userText ++ u.hostText
  | none, .segments ("" :: _ :: _) => "/."
  | none, _ => ""

/-- What is asked of the host: path and query. -/
def target (u : Url) : String :=
  u.path.text ++ (match u.query with
    | some q => "?" ++ q
    | none => "")

/-- The URL with one more pair in its query. -/
def addQuery (u : Url) (name value : String) : Url :=
  let pair := name ++ "=" ++ value
  { u with query := some (match u.query with
      | some q => if q.isEmpty then pair else q ++ "&" ++ pair
      | none => pair) }

def text (u : Url) : String :=
  u.scheme ++ ":" ++ u.authorityText ++ u.target ++ (match u.fragment with
    | some f => "#" ++ f
    | none => "")

end Url

end TokenBridge
