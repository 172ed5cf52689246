import EnergyAudit.Configuration.Settings
import EnergyAudit.Provider.Web

/-!
# Providers on the web

A provider is asked with one request, which holds the model, two messages and the temperature if
that is set.  Without the key that its configuration names nothing is sent.  A user that the URL of
the provider names goes along as an authorization of its own, before the key.

## Main definitions

* `Client` — a provider with its key; `Client.ofSettings` finds the key.
* `Client.request` — the request for a prompt.
* `Client.ask` — a prompt and what comes of it.
-/

namespace EnergyAudit.Provider

open EnergyAudit.Text

/-- What every provider is told first. -/
def systemPrompt : String :=
  "You review code for performance and energy efficiency and propose behavior-preserving rewrites."

/-- How requests name the program. -/
def userAgent : String := "ecocode/" ++ programVersion

/-- A provider with its key. -/
structure Client where
  endpoint : String
  model : String
  key? : Option String
  /-- The variable that should hold the key, if there is no key. -/
  missingVariable? : Option String
  temperature? : Option Float32

namespace Client

/-- A provider as it is configured in an environment. -/
def ofSettings (environment : String → Option String) (p : ProviderSettings) : Client :=
  let key? := p.resolvedKey? environment
  { endpoint := p.endpoint
    model := p.model
    key?
    missingVariable? := if key?.isSome then none else p.keyVariable?
    temperature? := p.temperature? }

/-- What a request says. -/
def body (c : Client) (prompt : String) : Json :=
  let message (role content : String) : Json :=
    .object [("role", .string role), ("content", .string content)]
  .object (
    [("model", .string c.model),
      ("messages", .array [message "system" systemPrompt, message "user" prompt]),
      ("stream", .bool false)] ++
    optionalMember "temperature" (fun t => .float t.toFloat) c.temperature?)

/-- The headers of a request to a URL that may name a user. -/
def headers (c : Client) (userInfo? : Option (String × Option String)) : List (String × String) :=
  (userInfo?.map fun (user, password?) => ("authorization", basic user password?)).toList ++
    ("content-type", "application/json") ::
    (c.key?.map fun key => ("authorization", bearer key)).toList ++
    [("accept", "*/*"), ("user-agent", userAgent)]

variable {υ : Type}

/-- The request that goes to a URL.  The user of the URL is told in the headers only. -/
def requestTo (c : Client) (w : Web υ) (url : υ) (prompt : String) : HttpRequest υ where
  method := .post
  url := if (w.userInfo? url).isSome then w.withoutUser url else url
  headers := c.headers (w.userInfo? url)
  body? := c.body prompt

/-- The request for a prompt.  The key is judged before the scheme. -/
def request (c : Client) (w : Web υ) (prompt : String) :
    Except ProviderError (HttpRequest υ) := do
  if let some variableName := c.missingVariable? then
    throw (.missingCredentials variableName)
  let url ← (w.parse c.endpoint).mapError fun e => .network ("builder error: " ++ e)
  if let some key := c.key? then
    if !isHeaderText key then
      throw (.network "builder error: failed to parse header value")
  let request := c.requestTo w url prompt
  if !w.isReachable url then
    throw (.network
      ("builder error for url (" ++ w.text request.url ++ "): URL scheme is not allowed"))
  return request

/-- Puts a prompt to a provider: what it says. -/
def ask {m : Type → Type} [Monad m] (c : Client) (w : Web υ) (carry : HttpRequest υ → m Reply)
    (prompt : String) : m (Except ProviderError String) :=
  match c.request w prompt with
  | .error e => return .error e
  | .ok request => return (← w.send carry w.redirectLimit request).content w.decode

end Client

end EnergyAudit.Provider
