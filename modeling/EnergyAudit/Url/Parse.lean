import EnergyAudit.Url.Host

/-!
# URLs

A URL names a scheme, often a machine, and a path with an optional query; a user with a password may
stand before the machine.  For the schemes of the web it is read leniently: slashes may lean either
way and be too many, and blanks around it do not count.

## Main definitions

* `Url` — a URL in its parts.
* `Url.parse` — the URL that a text stands for; `Url.join` — where it is read from another URL.
* `Url.userInfo?`, `Url.withoutUser` — the user of a URL, and the URL without one.
* `Url.target` — the path with the query; `Url.text` — the whole URL.
-/

namespace EnergyAudit

namespace Url

/-- What is known of the URLs with some scheme. -/
inductive SchemeKind where
  /-- Files, with or without a machine. -/
  | file
  /-- The web: there is always a machine. -/
  | web
  | other
deriving BEq, DecidableEq, Repr

/-- The kind of a scheme. -/
def SchemeKind.ofName (scheme : String) : SchemeKind :=
  if scheme == "file" then .file
  else if ["http", "https", "ws", "wss", "ftp"].contains scheme then .web
  else .other

/-- Whether a backslash stands for a slash. -/
def SchemeKind.isSpecial (k : SchemeKind) : Bool := k != .other

end Url

/-- A URL in its parts. -/
structure Url where
  scheme : String
  /-- The name of a user, which may be empty. -/
  user : String
  password? : Option String
  host : Option Url.Host
  port : Option Nat
  path : String
  query : Option String
deriving BEq, DecidableEq, Repr

namespace Url

/-- The path with the query. -/
def target (u : Url) : String :=
  u.path ++ match u.query with
    | some query => "?" ++ query
    | none => ""

/-- The user and the password as they are written. -/
def userText (u : Url) : String :=
  let password := match u.password? with
    | some password => ":" ++ password
    | none => ""
  if u.user.isEmpty && u.password?.isNone then "" else u.user ++ password ++ "@"

/-- A URL as it is written. -/
def text (u : Url) : String :=
  u.scheme ++ ":" ++
  (match u.host with
    | some host =>
      "//" ++ u.userText ++ host.text ++ match u.port with
        | some port => ":" ++ toString port
        | none => ""
    | none => if u.scheme == "file" then "//" else "") ++
  u.target

/-- Whether a character is a slash in URLs of the web. -/
def isSlash (c : Char) : Bool := c == '/' || c == '\\'

/-- The text without controls and blanks at its ends, and without line ends and tabs. -/
def cleaned (text : String) : List Char :=
  let isOuter (c : Char) : Bool := c.val ≤ 0x20
  let inner := ((text.toList.dropWhile isOuter).reverse.dropWhile isOuter).reverse
  inner.filter fun c => !(['\t', '\n', '\r'].contains c)

/-- The scheme at the start of a text in small letters, with what follows its colon. -/
def splitScheme? (text : List Char) : Option (String × List Char) :=
  let isSchemeChar (c : Char) : Bool := c.isAlphanum || c == '+' || c == '-' || c == '.'
  match text with
  | c :: _ =>
    if c.isAlpha then
      match text.dropWhile isSchemeChar with
      | ':' :: rest => some (.ofList ((text.takeWhile isSchemeChar).map Char.toLower), rest)
      | _ => none
    else none
  | [] => none

/-- Whether a character ends the part of a URL that names a machine. -/
def endsAuthority (k : SchemeKind) (c : Char) : Bool :=
  c == '/' || c == '?' || c == '#' || (k.isSpecial && c == '\\')

/-- The name and password of a user as one text, with what follows; the text is empty if there is no
user. -/
def splitUser (k : SchemeKind) (text : List Char) : Except UrlError (List Char × List Char) :=
  let authority := text.takeWhile fun c => !endsAuthority k c
  let rest := text.drop authority.length
  if !authority.contains '@' then .ok ([], text)
  else
    let host := (authority.reverse.takeWhile (· != '@')).reverse
    let user := authority.take (authority.length - host.length - 1)
    if user.isEmpty && host.isEmpty && !rest.isEmpty then .error .emptyHost
    else .ok (user, host ++ rest)

/-- The name of a user and the password.  A password that is empty is none. -/
def readUser (text : List Char) : String × Option String :=
  let name := text.takeWhile (· != ':')
  let password := text.drop (name.length + 1)
  (percentEncode isEncodedInUser name,
    if password.isEmpty then none else some (percentEncode isEncodedInUser password))

/-- The length of the host at the start of a text: a colon ends it unless it stands in brackets. -/
def hostLength (k : SchemeKind) : Bool → List Char → Nat
  | _, [] => 0
  | isBracketed, c :: rest =>
    if (c == ':' && !isBracketed) || endsAuthority k c then 0
    else hostLength k (c == '[' || (isBracketed && c != ']')) rest + 1

/-- The port that a scheme has unless another one is named. -/
def defaultPort? (scheme : String) : Option Nat :=
  if scheme == "http" || scheme == "ws" then some 80
  else if scheme == "https" || scheme == "wss" then some 443
  else if scheme == "ftp" then some 21
  else none

/-- The port behind a colon, with what follows it. -/
def readPort (text : List Char) : Except UrlError (Option Nat × List Char) :=
  let digits := text.takeWhile Char.isDigit
  let rest := text.drop digits.length
  let port := digits.foldl (fun n d => n * 10 + (d.toNat - '0'.toNat)) 0
  let isEnded := match rest with
    | [] => true
    | c :: _ => ['/', '\\', '?', '#'].contains c
  if 65535 < port || !isEnded then .error .invalidPort
  else .ok (if digits.isEmpty then none else some port, rest)

/-! ### Paths -/

/-- Whether a part of a path stands for the place itself. -/
def isSingleDot (part : List Char) : Bool :=
  [".", "%2e"].contains (String.ofList (part.map Char.toLower))

/-- Whether a part of a path stands for the place above. -/
def isDoubleDot (part : List Char) : Bool :=
  ["..", ".%2e", "%2e.", "%2e%2e"].contains (String.ofList (part.map Char.toLower))

/-- The parts of a path between slashes. -/
def pathParts (k : SchemeKind) (text : List Char) : List (List Char) :=
  match text with
  | [] => [[]]
  | c :: rest =>
    if c == '/' || (k.isSpecial && c == '\\') then [] :: pathParts k rest
    else match pathParts k rest with
      | part :: parts => (c :: part) :: parts
      | [] => [[c]]

/-- The parts of a path, given backwards what is before them, without the parts that stand for
places. -/
def resolveDots (before : List (List Char)) : List (List Char) → List (List Char)
  | [] => before.reverse
  | [part] =>
    if isDoubleDot part then ([] :: before.drop 1).reverse
    else if isSingleDot part then ([] :: before).reverse
    else (part :: before).reverse
  | part :: rest =>
    if isDoubleDot part then resolveDots (before.drop 1) rest
    else if isSingleDot part then resolveDots before rest
    else resolveDots (part :: before) rest

/-- The path that a text stands for. -/
def pathOf (k : SchemeKind) (text : List Char) : String :=
  let text := match text with
    | c :: rest => if c == '/' || (k.isSpecial && c == '\\') then rest else text
    | [] => []
  "/" ++ "/".intercalate
    ((resolveDots [] (pathParts k text)).map (percentEncode isEncodedInPath))

/-- Splits a text behind the machine into path and query; what follows a hash is left out. -/
def splitQuery (text : List Char) : List Char × Option (List Char) :=
  let text := text.takeWhile (· != '#')
  let path := text.takeWhile (· != '?')
  (path, match text.drop path.length with
    | _ :: query => some query
    | [] => none)

/-- A URL without a user, of which the text behind the port is still to be read. -/
def withPath (scheme : String) (host : Option Host) (port : Option Nat) (text : List Char) : Url :=
  let (path, query) := splitQuery text
  let k := SchemeKind.ofName scheme
  { scheme
    user := ""
    password? := none
    host
    port := if port == defaultPort? scheme then none else port
    path := if path.isEmpty && !k.isSpecial then "" else pathOf k path
    query := query.map (percentEncode isEncodedInQuery) }

/-- A URL behind the slashes after its scheme. -/
def parseAuthority (scheme : String) (text : List Char) : Except UrlError Url := do
  let k := SchemeKind.ofName scheme
  let (userText, behindUser) ← splitUser k text
  let length := hostLength k false behindUser
  let name := behindUser.take length
  let rest := behindUser.drop length
  if k == .web && name.isEmpty then throw .emptyHost
  let host ← if k.isSpecial then Host.parse name else Host.parseOpaque name
  let (user, password?) := readUser userText
  let hasUser := !user.isEmpty || password?.isSome
  if name.isEmpty && (rest.head? == some ':' || hasUser) then throw .emptyHost
  let (port, rest) ← match rest with
    | ':' :: rest => readPort rest
    | _ => pure (none, rest)
  return { withPath scheme (some host) port rest with user, password? }

/-- A URL of a file, behind its scheme. -/
def parseFile (text : List Char) : Except UrlError Url := do
  match text with
  | a :: b :: rest =>
    if isSlash a && isSlash b then
      let name := rest.takeWhile fun c => !endsAuthority .file c
      let isDrive := match name with
        | [letter, mark] => letter.isAlpha && (mark == ':' || mark == '|')
        | _ => false
      if name.isEmpty || isDrive then return withPath "file" none none rest
      else return withPath "file" (some (← Host.parse name)) none (rest.drop name.length)
    else return withPath "file" none none text
  | _ => return withPath "file" none none text

/-- The URL that a text stands for. -/
def parse (text : String) : Except UrlError Url :=
  match splitScheme? (cleaned text) with
  | none => .error .noScheme
  | some (scheme, rest) =>
    match SchemeKind.ofName scheme with
    | .web => parseAuthority scheme (rest.dropWhile isSlash)
    | .file => parseFile rest
    | .other =>
      match rest with
      | '/' :: '/' :: rest => parseAuthority scheme rest
      | _ => .ok (withPath scheme none none rest)

/-! ### URLs in other URLs -/

/-- The URL of the same machine with another path and query. -/
def leadingTo (u : Url) (text : List Char) : Url :=
  { withPath u.scheme u.host u.port text with user := u.user, password? := u.password? }

/-- The URL that a text without a scheme stands for in a URL of the web: it may name a machine,
start from its root, or go on from where the URL leads. -/
def joinRelative (u : Url) (text : List Char) : Except UrlError Url :=
  match text with
  | [] => .ok u
  | '#' :: _ => .ok u
  | '?' :: _ => .ok (u.leadingTo (u.path.toList ++ text))
  | c :: rest =>
    if isSlash c && (rest.head?.map isSlash).getD false then
      parseAuthority u.scheme (rest.dropWhile isSlash)
    else if isSlash c then .ok (u.leadingTo text)
    else
      let last := u.path.toList.reverse.takeWhile (· != '/')
      .ok (u.leadingTo (u.path.toList.take (u.path.length - last.length) ++ text))

/-- The URL that a text stands for in another one.  The scheme of the other one need not be
repeated. -/
def join (u : Url) (text : String) : Except UrlError Url :=
  match splitScheme? (cleaned text) with
  | none => u.joinRelative (cleaned text)
  | some (scheme, rest) =>
    let slashes := (rest.takeWhile isSlash).length
    if scheme == u.scheme && slashes < 2 then u.joinRelative rest else parse text

/-! ### Users -/

/-- The user of a machine and the password, if there are any. -/
def userInfo? (u : Url) : Option (String × Option String) := do
  let decoded (text : String) : Option String :=
    String.fromUTF8? ⟨(percentDecode text.toList).toArray⟩
  let user ← decoded u.user
  let password? := u.password?.bind decoded
  if u.host.isNone || (user.isEmpty && password?.isNone) then none else some (user, password?)

/-- A URL without its user. -/
def withoutUser (u : Url) : Url := { u with user := "", password? := none }

end Url

end EnergyAudit
