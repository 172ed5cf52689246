import EnergyAudit.Proofs.Request.Fallback
import EnergyAudit.Proofs.Suggestion.Bare

/-!
# What a successful request carries

A request succeeds with what some provider said in time, in its two parts.  Blank answers are passed
over, but they are looked at before they are split: a bare block is not blank, so a request succeeds
with it, and then neither part has anything in it.  Every other success carries something.

## Main results

* `Surroundings.exists_turn_of_answered` — a success comes from the turn of a provider.
* `Orchestrator.success_carries` — a success carries something unless the answer is a bare block.
* `Orchestrator.empty_success_of_bareBlock` — a request that succeeds with nothing.
-/

namespace EnergyAudit

open EnergyAudit.Text

variable {σ π : Type}

/-- An answer comes from a call that has come to its end, and it is not blank. -/
theorem Turn.exists_reply_of_answered {t : Turn π} {timeout : Nat} {text : String}
    (h : t.verdict timeout = .answered text) :
    ∃ course, t.call? = some course ∧ course.reply timeout = .ok text ∧
      isAllBlank text = false := by
  unfold verdict at h
  cases hcall : t.call? with
  | none =>
    rw [hcall] at h
    cases h
  | some course =>
    refine ⟨course, rfl, ?_⟩
    simp only [hcall, CallCourse.ending] at h
    split at h
    · cases h
    · exact Verdict.ofReply_eq_answered_iff.mp h

namespace Surroundings

variable {s : Surroundings σ π} {prompt : String} {timeout : Nat}

/-- The answer with which some turns end is that of one of the providers. -/
theorem exists_turn_of_answered {is : List (Installation π)} {i : Installation π} {text : String} :
    ∀ {c : Situation σ}, (s.passage prompt timeout c is).ending = .answered i text →
      i ∈ is ∧ ∃ c' : Situation σ, (s.turn prompt c' i).verdict timeout = .answered text := by
  induction is with
  | nil =>
    intro c h
    cases h
  | cons j is ih =>
    intro c h
    rw [passage] at h
    split at h
    · cases h
    · cases hverdict : (s.turn prompt c j).verdict timeout with
      | answered said =>
        simp only [hverdict] at h
        obtain ⟨rfl, rfl⟩ := Ending.answered.inj h
        exact ⟨List.mem_cons_self, c, hverdict⟩
      | abandoned =>
        simp only [hverdict] at h
        cases h
      | refused | failed error =>
        -- The answer is that of a provider that comes later.
        simp only [hverdict] at h
        obtain ⟨hi, hturn⟩ := ih h
        exact ⟨List.mem_cons_of_mem j hi, hturn⟩

/-- What is put to a provider is answered in the situation in which its turn comes. -/
theorem exists_reply_of_answered {is : List (Installation π)} {c : Situation σ}
    {i : Installation π} {text : String}
    (h : (s.passage prompt timeout c is).ending = .answered i text) :
    i ∈ is ∧ (∃ world, (s.call i prompt world).1.reply timeout = .ok text) ∧
      isAllBlank text = false := by
  obtain ⟨hi, c', hverdict⟩ := exists_turn_of_answered h
  obtain ⟨course, hcall, hreply, hblank⟩ := Turn.exists_reply_of_answered hverdict
  obtain ⟨-, hcourse⟩ := Option.ite_none_right_eq_some.mp hcall
  exact ⟨hi, ⟨_, (congrArg (·.reply timeout) (Option.some.inj hcourse)).trans hreply⟩, hblank⟩

end Surroundings

/-- **A successful request carries an explanation or code unless the answer is a bare block.**  The
answer is what one of the providers said in time to the prompt; it is not blank, and the result has
its two parts. -/
theorem Orchestrator.success_carries (o : Orchestrator π) (record : FunctionRecord)
    (score : HotspotScore) (s : Surroundings σ π) (ledger : Ledger) (world : σ)
    {result : SuggestionResult}
    (hresult : (Progress.run s ⟨o.request record score, ledger, world⟩).request.result? =
      some result)
    (hsuccess : result.status = .succeeded) :
    ∃ i ∈ o.installations, ∃ said,
      (∃ world', (s.call i (prompt record score promptLanguage) world').1.reply o.timeout =
        .ok said) ∧
      isAllBlank said = false ∧
      result =
        { functionId := record.id
          status := .succeeded
          slot? := some i.slot
          provider? := some i.name
          rationale := (Answer.ofText said).rationale
          code := (Answer.ofText said).code } ∧
      (result.rationale ≠ "" ∨ result.code ≠ "" ↔ ¬ IsBareBlock said.toList) := by
  rw [o.run_request, Progress.undergo, Request.result?_undergo] at hresult
  obtain rfl := Option.some.inj hresult
  cases hending : (s.passage (prompt record score promptLanguage) o.timeout ⟨ledger, world⟩
      o.installations).ending with
  | answered i said =>
    obtain ⟨hi, hreply, hblank⟩ := Surroundings.exists_reply_of_answered hending
    refine ⟨i, hi, said, hreply, hblank, rfl, ?_⟩
    have hempty : (Answer.ofText said).IsEmpty ↔ IsBareBlock said.toList := by
      rw [Answer.isEmpty_ofText_iff, hblank]
      simp
    rw [← hempty, Answer.IsEmpty, not_and_or]
    rfl
  | abandoned _ | cancelled | failed =>
    rw [hending] at hsuccess
    cases hsuccess

/-- An orchestrator of two providers that say a text each. -/
def Orchestrator.ofSayings (first second : String) : Orchestrator String :=
  ⟨[⟨.primary, "first", first⟩, ⟨.secondary, "second", second⟩], 1000⟩

/-- A request takes what the first provider says if it is not blank. -/
theorem Orchestrator.result?_ofSayings (first second : String)
    (hblank : isAllBlank first = false) :
    (Progress.run Surroundings.reciting
      ⟨(ofSayings first second).request default default, .empty, ()⟩).request.result? =
        some ⟨default, .succeeded, some .primary, some "first", (Answer.ofText first).rationale,
          (Answer.ofText first).code⟩ := by
  have hs : Surroundings.reciting.NeverCancels := ⟨fun _ => rfl, fun _ _ _ => rfl⟩
  have h := (ofSayings first second).request_of_answers default default hs .empty ()
    (List.nil_append _).symm ?_ ⟨?_, ⟨0, Nat.zero_le _, rfl⟩, hblank⟩
  · exact h.1
  · intro before i rest text hsplit
    simp at hsplit
  · rw [Ledger.acquire_fst, Account.hasBudget, Surroundings.limit_after, Ledger.account_empty]

/-- A request that succeeds with code alone has it from an answer that is not a bare block. -/
theorem Orchestrator.success_carries_codeAlone :
    (Progress.run Surroundings.reciting
      ⟨(ofSayings "```\nf()\n```" "").request default default, .empty, ()⟩).request.result? =
        some ⟨default, .succeeded, some .primary, some "first", "", "f()"⟩ ∧
      ∃ i ∈ (ofSayings "```\nf()\n```" "").installations, ¬ IsBareBlock i.provider.toList := by
  have hresult : (Progress.run Surroundings.reciting
      ⟨(ofSayings "```\nf()\n```" "").request default default, .empty, ()⟩).request.result? =
        some ⟨default, .succeeded, some .primary, some "first", "", "f()"⟩ := by
    rw [result?_ofSayings _ _ (by decide)]
    cbv
  obtain ⟨i, hi, said, ⟨world, hsaid⟩, -, -, hcarries⟩ :=
    (ofSayings "```\nf()\n```" "").success_carries default default Surroundings.reciting .empty ()
      hresult rfl
  obtain rfl : i.provider = said := Except.ok.inj hsaid
  exact ⟨hresult, i, hi, hcarries.mp (.inr (by decide))⟩

/-- A request succeeds with a bare block, though it carries nothing and the other provider would
have had something to say. -/
theorem Orchestrator.empty_success_of_bareBlock :
    (Progress.run Surroundings.reciting
      ⟨(ofSayings "```\n```" "Cache it.").request default default, .empty, ()⟩).request.result? =
        some ⟨default, .succeeded, some .primary, some "first", "", ""⟩ := by
  rw [result?_ofSayings _ _ (by decide)]
  cbv

end EnergyAudit
