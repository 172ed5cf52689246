import EnergyAudit.Provider.Completion
import EnergyAudit.Url.Parse

/-!
# The web

Requests go to URLs and are carried by somebody; what comes back is an answer with a status and a
body, or nothing.  An answer may redirect a request to another URL, and then that request is carried
too.  How texts are read as URLs and as completions is left open.

## Main definitions

* `Web` — how texts are read on the web; `Web.standard` reads URLs and JSON.
* `HttpRequest`, `Reply` — what is sent, and what comes back.
* `Web.redirection?` — the request to which an answer redirects another.
* `Web.send` — carries a request and those to which it is redirected.
* `Reply.content` — what a provider says in a reply.
-/

namespace EnergyAudit.Provider

/-- How texts are read on the web, where `υ` is the type of URLs. -/
structure Web (υ : Type) where
  /-- The URL that a text stands for, or what is wrong with it. -/
  parse : String → Except String υ
  /-- The URL that a text stands for in another one. -/
  join? : υ → String → Option υ
  /-- A URL as it is written. -/
  text : υ → String
  scheme : υ → String
  /-- The machine that a URL names, and the port. -/
  place : υ → Option String × Option Nat
  /-- The user that a URL names and the password, if there are any. -/
  userInfo? : υ → Option (String × Option String)
  withoutUser : υ → υ
  /-- The choices of a completion, or what is wrong with it. -/
  decode : String → Except String (List Choice)
  /-- How often a request is redirected. -/
  redirectLimit : Nat

/-- How URLs are read, and completions as JSON. -/
def Web.standard : Web Url where
  parse text := (Url.parse text).mapError Url.UrlError.message
  join? u text := (u.join text).toOption
  text := Url.text
  scheme := Url.scheme
  place u := (u.host.map Url.Host.text, u.port.or (Url.defaultPort? u.scheme))
  userInfo? := Url.userInfo?
  withoutUser := Url.withoutUser
  decode text := (readCompletion text).mapError JsonError.message
  redirectLimit := 10

/-! ### Requests -/

/-- What a request is for. -/
inductive HttpMethod where
  | get
  | post
deriving BEq, DecidableEq, Repr

/-- A request: where it goes, its headers, and what it says. -/
structure HttpRequest (υ : Type) where
  method : HttpMethod
  url : υ
  headers : List (String × String)
  body? : Option Json

/-- The values of the headers of a name. -/
def HttpRequest.valuesOf {υ : Type} (r : HttpRequest υ) (name : String) : List String :=
  (r.headers.filter (·.1 == name)).map (·.2)

/-- The authorizations that a request carries. -/
def HttpRequest.authorizations {υ : Type} (r : HttpRequest υ) : List String :=
  r.valuesOf "authorization"

/-- Whether a text can be sent as a header. -/
def isHeaderText (text : String) : Bool :=
  text.toList.all fun c => (32 ≤ c.val && c.val != 127) || c == '\t'

/-- A header as it arrives: without blanks at its end. -/
def headerText (text : String) : String :=
  .ofList (text.toList.reverse.dropWhile fun c => c == ' ' || c == '\t').reverse

/-- The authorization with a key. -/
def bearer (key : String) : String := headerText ("Bearer " ++ key)

/-- A digit in base 64. -/
def base64Digit (n : Nat) : Char :=
  "ABCDEFGHIJKLMNOPQRSTUVWXYZabcdefghijklmnopqrstuvwxyz0123456789+/".toList.getD n '='

/-- Bytes in base 64: four digits for three bytes, filled up at the end. -/
def base64 : List UInt8 → List Char
  | [] => []
  | [a] =>
    let n := a.toNat * 16
    [base64Digit (n / 64), base64Digit (n % 64), '=', '=']
  | [a, b] =>
    let n := (a.toNat * 256 + b.toNat) * 4
    [base64Digit (n / 4096), base64Digit (n / 64 % 64), base64Digit (n % 64), '=']
  | a :: b :: c :: rest =>
    let n := (a.toNat * 256 + b.toNat) * 256 + c.toNat
    base64Digit (n / 262144) :: base64Digit (n / 4096 % 64) :: base64Digit (n / 64 % 64) ::
      base64Digit (n % 64) :: base64 rest

/-- The authorization of a user with a password. -/
def basic (user : String) (password? : Option String) : String :=
  "Basic " ++ .ofList (base64 (user ++ ":" ++ password?.getD "").toUTF8.toList)

/-! ### Answers -/

/-- The body of an answer. -/
inductive ReplyBody where
  | whole (text : String)
  /-- The connection closes before the end. -/
  | cutOff (detail : String)
  /-- The end does not come in time. -/
  | stalled

/-- What comes back. -/
inductive Reply where
  /-- There is no answer, for some reason. -/
  | unreachable (detail : String)
  /-- There is no answer in time. -/
  | late
  /-- There is an answer, which may name another place. -/
  | answered (status : Nat) (location? : Option String) (body : ReplyBody)

/-- The text of a body; a mark of byte order before it does not count.  With some statuses there is
none. -/
def ReplyBody.text (status : Nat) (body : ReplyBody) : Except ProviderError String :=
  if status == 204 then .ok ""
  else match body with
    | .whole text =>
      match text.toList with
      | '\ufeff' :: chars => .ok (.ofList chars)
      | _ => .ok text
    | .cutOff detail => .error (.network detail)
    | .stalled => .error .timeout

/-- What a provider says in a reply.  The status is judged before the body is read. -/
def Reply.content (decode : String → Except String (List Choice)) :
    Reply → Except ProviderError String
  | unreachable detail => .error (.network detail)
  | late => .error .timeout
  | answered status _ body =>
    if status == 429 then .error .rateLimited
    else if status < 200 || 300 ≤ status then .error (.status status)
    else body.text status >>= completionContent decode

/-! ### Redirections -/

/-- The statuses that redirect a request to be asked anew, without what it says. -/
def freshStatuses : List Nat := [301, 302, 303]

/-- The statuses that redirect a request as it is. -/
def keptStatuses : List Nat := [307, 308]

/-- The status of an answer that redirects, and the place that it names. -/
def Reply.redirect? : Reply → Option (Nat × String)
  | answered status (some location) _ =>
    if (freshStatuses ++ keptStatuses).contains status then some (status, location) else none
  | _ => none

namespace Web

variable {υ : Type} (w : Web υ)

/-- Whether requests can go to a URL: only to the web. -/
def isReachable (url : υ) : Bool := ["http", "https"].contains (w.scheme url)

/-- Where a request to a URL comes from when it is redirected from another; a secure URL is not told
to one that is not. -/
def referer? (previous next : υ) : Option (String × String) :=
  if w.scheme previous == "https" && w.scheme next == "http" then none
  else some ("referer", w.text (w.withoutUser previous))

/-- A request redirected to another URL.  No authorization goes to another machine. -/
def redirected (r : HttpRequest υ) (status : Nat) (url : υ) : HttpRequest υ :=
  let isFresh := freshStatuses.contains status
  let isLeftOut (name : String) : Bool :=
    (isFresh && name == "content-type") || name == "referer" ||
      (w.place url != w.place r.url && name == "authorization")
  { method := if isFresh then .get else r.method
    url
    headers := r.headers.filter (fun header => !isLeftOut header.1) ++
      (w.referer? r.url url).toList
    body? := if isFresh then none else r.body? }

/-- The request to which an answer redirects another, if the place that is named is a URL. -/
def redirection? (r : HttpRequest υ) (reply : Reply) : Option (HttpRequest υ) := do
  let (status, location) ← reply.redirect?
  let url ← w.join? r.url location
  return w.redirected r status url

/-- What is seen of a request that is redirected too often. -/
def tooManyRedirections (url : υ) : Reply :=
  .unreachable ("error following redirect for url (" ++ w.text url ++ "): too many redirects")

/-- What is seen of a request that cannot go to a URL. -/
def wrongScheme (url : υ) : Reply :=
  .unreachable ("error sending request for url (" ++ w.text url ++ "): URL scheme is not allowed")

/-- Carries a request, and those to which answers redirect it, up to a limit. -/
def send {m : Type → Type} [Monad m] (carry : HttpRequest υ → m Reply) :
    Nat → HttpRequest υ → m Reply
  | limit, r => do
    let reply ← carry r
    match w.redirection? r reply with
    | none => return reply
    | some next =>
      match limit with
      | 0 => return w.tooManyRedirections r.url
      | limit + 1 =>
        if w.isReachable next.url then send carry limit next else return w.wrongScheme next.url

end Web

end EnergyAudit.Provider
