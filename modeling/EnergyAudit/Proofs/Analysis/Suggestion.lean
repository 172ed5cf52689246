import EnergyAudit.Proofs.Analysis.Hotspots
import EnergyAudit.Proofs.Request.Discipline

/-!
# Suggestions for the functions of a session

A suggestion is asked for by the id of a function.  The function is found in the table of the
session and its score in the list by rank; only when both are there a request is made.  If no two
functions have one id, the two lookups agree with each other and with the rows of the report.

## Main results

* `Progress.prompt_of_mem_calls` — all calls of a request come with its prompt.
* `Progress.head?_calls` — the first provider is called if the call is granted.
* `Session.suggestIn_eq` — no situation changes without a request.
* `Session.exists_scoreFor?_eq` — the score of a function has the rank of its row.
* `Session.suggest_of_not_mem`, `Session.exists_suggest_eq` — what comes of an id that is that of no
  function, and of one that is.
* `Session.suggest_by_id` — what comes of asking for a suggestion by an id.
-/

namespace EnergyAudit

variable {σ π : Type}

/-! ### The prompt of a request -/

namespace Request

@[simp] theorem prompt_takeTurn (r : Request π) (isCancelled : Bool) (now : Nat)
    (ledger : Ledger) : (r.takeTurn isCancelled now ledger).1.prompt = r.prompt := by
  unfold takeTurn
  split
  · rfl
  · split
    · rfl
    · dsimp only
      split <;> rfl
  · rfl

@[simp] theorem prompt_endCall (r : Request π) (ending : CallEnd) (ledger : Ledger) :
    (r.endCall ending ledger).1.prompt = r.prompt := by
  unfold endCall
  split
  · split <;> rfl
  · rfl

end Request

namespace Progress

@[simp] theorem prompt_step (s : Surroundings σ π) (p : Progress σ π) :
    (p.step s).request.prompt = p.request.prompt := by
  unfold step
  split
  · exact p.request.prompt_takeTurn _ _ _
  · exact p.request.prompt_endCall _ _
  · rfl

/-- The call that comes in a step comes with the prompt of the request. -/
theorem prompt_of_mem_nextCalls {p : Progress σ π} {call : Installation π × String}
    (hcall : call ∈ p.nextCalls) : call.2 = p.request.prompt := by
  unfold nextCalls at hcall
  split at hcall
  · rw [List.mem_singleton.mp hcall]
  · cases hcall

/-- All calls of a request come with its prompt. -/
theorem prompt_of_mem_calls {s : Surroundings σ π} {n : Nat} : ∀ {p : Progress σ π}
    {call : Installation π × String}, call ∈ p.calls s n → call.2 = p.request.prompt := by
  induction n with
  | zero => intro p call hcall; cases hcall
  | succ n ih =>
    intro p call hcall
    rcases List.mem_append.mp hcall with hcall | hcall
    · exact prompt_of_mem_nextCalls hcall
    · rw [ih hcall, prompt_step]

/-- A request whose first provider is granted a call before it is cancelled calls that provider
first. -/
theorem head?_calls {s : Surroundings σ π} {p : Progress σ π} {i : Installation π}
    {waiting : List (Installation π)} (hstage : p.request.stage = .turn (i :: waiting))
    (hcancelled : s.isCancelled p.world = false)
    (hgranted : (p.ledger.acquire i.name (s.now p.world)).1 = true) (n : Nat) :
    (p.calls s (n + 2)).head? = some (i, p.request.prompt) := by
  have hnone : p.nextCalls = [] := by rw [nextCalls, hstage]
  have hcalling : (p.step s).request.stage = .calling i waiting := by
    rcases hacquire : p.ledger.acquire i.name (s.now p.world) with ⟨isGranted, ledger⟩
    rw [hacquire] at hgranted
    obtain rfl : isGranted = true := hgranted
    simp [step, hstage, Request.takeTurn, hcancelled, hacquire]
  have hcalled : (p.step s).nextCalls = [(i, p.request.prompt)] := by
    rw [nextCalls, hcalling, prompt_step]
  rw [calls, calls, hnone, hcalled]
  rfl

end Progress

/-- A request that has been run has a result for its function. -/
theorem Orchestrator.exists_result (o : Orchestrator π) (record : FunctionRecord)
    (score : HotspotScore) (s : Surroundings σ π) (ledger : Ledger) (world : σ) :
    ∃ result,
      (Progress.run s ⟨o.request record score, ledger, world⟩).request.result? = some result ∧
        result.functionId = record.id := by
  rw [o.run_request record score s ledger world, Progress.undergo, Request.result?_undergo]
  refine ⟨_, rfl, ?_⟩
  generalize (s.passage _ _ _ _).ending = ending
  cases ending <;> rfl

namespace Session

/-! ### The order of what is done -/

/-- The situation changes by a request, and it stays if there is none. -/
theorem suggestIn_eq (s : Session) (id : FunctionId) (o : Orchestrator π)
    (around : Surroundings σ π) (c : Situation σ) :
    (s.suggestIn id o around).run c =
      match s.suggest id o around c.ledger c.world with
      | .error e => (.error e, c)
      | .ok p => (.ok p.request, ⟨p.ledger, p.world⟩) := by
  unfold suggest suggestIn
  cases s.select id with
  | error e => rfl
  | ok record =>
    cases s.scoreFor? id with
    | none => rfl
    | some score => rfl

/-! ### The two lookups -/

/-- The score under the id of a function is that of the function, with the rank of its row. -/
theorem exists_scoreFor?_eq (u : SourceUnit) {records : List FunctionRecord} (rate : Float)
    (now : Nat) (hdistinct : (records.map (·.id)).Nodup) {r : FunctionRecord}
    (hr : r ∈ records) : ∃ rank,
      (ofRecords u records rate now).scoreFor? r.id = some (r.hotspotScore rank) ∧
        (∃ row ∈ (ofRecords u records rate now).hotspots, row.functionId = r.id) ∧
        ∀ row ∈ (ofRecords u records rate now).hotspots, row.functionId = r.id →
          row.rank = rank := by
  obtain ⟨place, hplace⟩ :=
    List.mem_iff_getElem?.mp ((recordsByRank_perm records).mem_iff.mpr hr)
  have hscore : (ofRecords u records rate now).scoreFor? r.id =
      some (r.hotspotScore (place + 1)) := scoreFor?_ofRecords hdistinct hplace
  refine ⟨place + 1, hscore, ⟨row rate place r, ?_, rfl⟩, ?_⟩
  · refine List.mem_of_getElem? ((getElem?_hotspots hdistinct place).trans ?_)
    rw [hplace, Option.map_some]
  · intro h hh hid
    obtain ⟨_, -, -, -, -, hrow⟩ := exists_isOf_of_mem_hotspots hdistinct hh
    rw [hid] at hrow
    exact (congrArg HotspotScore.rank (Option.some.inj (hscore.symm.trans hrow))).symm

/-! ### The two cases -/

section

variable {u : SourceUnit} {records : List FunctionRecord} {rate : Float} {created : Nat}
  {accesses : List Nat}

/-- There is no suggestion under an id that is not that of a function. -/
theorem suggest_of_not_mem {id : FunctionId} (hid : id ∉ records.map (·.id))
    (o : Orchestrator π) (around : Surroundings σ π) (ledger : Ledger) (world : σ) :
    (ofAccesses u records rate created accesses).suggest id o around ledger world =
      .error (.notFound id) := by
  obtain ⟨latest, hs⟩ := exists_ofAccesses_eq u records rate created accesses
  have hselect : (ofAccesses u records rate created accesses).select id =
      .error (.notFound id) := by
    rw [select, hs, record?_touched, record?_ofRecords_eq_none hid]
  rw [suggest, suggestIn, hselect]
  rfl

/-- Under the id of a function a request for it is run, with its score and the rank of its row. -/
theorem exists_suggest_eq (hdistinct : (records.map (·.id)).Nodup) {r : FunctionRecord}
    (hr : r ∈ records) :
    let s := ofAccesses u records rate created accesses
    ∃ rank,
      (∀ {σ π : Type} (o : Orchestrator π) (around : Surroundings σ π) (ledger : Ledger)
        (world : σ), s.suggest r.id o around ledger world =
          .ok (Progress.run around ⟨o.request r (r.hotspotScore rank), ledger, world⟩)) ∧
      (∃ row ∈ s.hotspots, row.functionId = r.id) ∧
      ∀ row ∈ s.hotspots, row.functionId = r.id → row.rank = rank := by
  intro s
  -- When the session was asked about shows in no lookup.
  obtain ⟨latest, hs⟩ : ∃ latest, s = (ofRecords u records rate created).touched latest :=
    exists_ofAccesses_eq u records rate created accesses
  obtain ⟨rank, hscore, hrows⟩ := exists_scoreFor?_eq u rate created hdistinct hr
  have hselect : s.select r.id = .ok r := by
    rw [select, hs, record?_touched, record?_ofRecords hdistinct hr]
  refine ⟨rank, ?_, ?_⟩
  · intro σ π o around ledger world
    rw [suggest, suggestIn, hselect, hs, scoreFor?_touched, hscore]
    rfl
  · rw [hs, hotspots_touched]
    exact hrows

end

end Session

/-- **What comes of asking for a suggestion by an id**, in a session in which no two functions have
one id.  It fails just when the id is not that of a function, and says so; then no call comes to a
provider and the ledger stays as it is.  Else a request is run to its end, and its result carries
the id.  All its calls come with the prompt for the one function with this id and a score that is
that of this function, with the rank of its row in the report; the first provider is called so if
its call is granted before the request is cancelled. -/
theorem Session.suggest_by_id (u : SourceUnit) (records : List FunctionRecord) (rate : Float)
    (created : Nat) (accesses : List Nat) (hdistinct : (records.map (·.id)).Nodup)
    (id : FunctionId) (o : Orchestrator π) (around : Surroundings σ π) (ledger : Ledger)
    (world : σ) :
    let s := ofAccesses u records rate created accesses
    let before : Situation (σ × List (Installation π × String)) := ⟨ledger, (world, [])⟩
    let outcome := (s.suggestIn id o around.recording).run before
    ((∃ e, s.suggest id o around ledger world = .error e) ↔ id ∉ records.map (·.id)) ∧
      (id ∉ records.map (·.id) →
        s.suggest id o around ledger world = .error (.notFound id) ∧
        outcome = (.error (.notFound id), before)) ∧
      ∀ r ∈ records, r.id = id → ∃ score p result calls,
        s.suggest id o around ledger world = .ok p ∧
        p = Progress.run around ⟨o.request r score, ledger, world⟩ ∧
        p.request.result? = some result ∧
        result.functionId = id ∧
        outcome = (.ok p.request, ⟨p.ledger, (p.world, calls)⟩) ∧
        (∀ call ∈ calls, call.2 = prompt r score Orchestrator.promptLanguage) ∧
        (∀ i others, o.installations = i :: others → around.isCancelled world = false →
          (ledger.acquire i.name (around.now world)).1 = true →
            calls.head? = some (i, prompt r score Orchestrator.promptLanguage)) ∧
        score.functionId = id ∧
        score.score = r.score ∧
        score.breakdown = .ofRecord r ∧
        (∃ row ∈ s.hotspots, row.functionId = id) ∧
        ∀ row ∈ s.hotspots, row.functionId = id → row.rank = score.rank := by
  intro s before outcome
  refine ⟨⟨?_, fun hid => ⟨_, suggest_of_not_mem hid o around ledger world⟩⟩, ?_, ?_⟩
  · rintro ⟨e, he⟩ hid
    obtain ⟨r, hr, rfl⟩ := List.mem_map.mp hid
    obtain ⟨rank, hok, -⟩ := exists_suggest_eq hdistinct hr
    cases he.symm.trans (hok o around ledger world)
  · intro hid
    refine ⟨suggest_of_not_mem hid o around ledger world, ?_⟩
    have hmiss : s.suggest id o around.recording ledger (world, []) = .error (.notFound id) :=
      suggest_of_not_mem hid o around.recording ledger (world, [])
    simp only [outcome, suggestIn_eq, before, hmiss]
  · rintro r hr rfl
    obtain ⟨rank, hok, hrow, hrows⟩ := exists_suggest_eq hdistinct hr
    obtain ⟨result, hresult, hid⟩ := o.exists_result r (r.hotspotScore rank) around ledger world
    let p : Progress σ π := ⟨o.request r (r.hotspotScore rank), ledger, world⟩
    have hrun := Progress.run_recorded around p
    refine ⟨r.hotspotScore rank, p.run around, result, p.calls around p.request.stage.stepsLeft,
      hok o around ledger world, rfl, hresult, hid, ?_, fun call => Progress.prompt_of_mem_calls,
      ?_, rfl, rfl, rfl, hrow, hrows⟩
    · -- The recorded calls come on top of what the request does without a record of them.
      have hrecorded : s.suggest r.id o around.recording ledger (world, []) = .ok _ :=
        (hok o around.recording ledger (world, [])).trans (congrArg Except.ok hrun)
      simp only [outcome, suggestIn_eq, before, hrecorded, Progress.recorded]
    · intro i others hinstalled hcancelled hgranted
      have hstage : p.request.stage = .turn (i :: others) := congrArg Stage.turn hinstalled
      have hfirst := Progress.head?_calls hstage hcancelled hgranted (2 * others.length + 1)
      rw [hstage]
      exact hfirst

/-- In a session with three functions a suggestion is had for one of them, and not for another. -/
theorem Session.suggest_by_id_threeFunctions :
    let s := ofAccesses ⟨"", "python", defaultFilename⟩ threeFunctions 8.0 0 [5, 7]
    (threeFunctions.map (·.id)).Nodup ∧
      s.suggest ⟨"other@2"⟩ Orchestrator.silentFirst Surroundings.reciting .empty () =
        .error (.notFound ⟨"other@2"⟩) ∧
      ∃ p result,
        s.suggest ⟨"loops@4"⟩ Orchestrator.silentFirst Surroundings.reciting .empty () = .ok p ∧
        p.request.result? = some result ∧ result.functionId = ⟨"loops@4"⟩ := by
  intro s
  have hdistinct : (threeFunctions.map (·.id)).Nodup := by decide
  have h := fun id => suggest_by_id ⟨"", "python", defaultFilename⟩ threeFunctions 8.0 0 [5, 7]
    hdistinct id Orchestrator.silentFirst Surroundings.reciting .empty ()
  refine ⟨hdistinct, ((h ⟨"other@2"⟩).2.1 (by decide)).1, ?_⟩
  obtain ⟨-, p, result, -, hp, -, hresult, hid, -⟩ :=
    (h ⟨"loops@4"⟩).2.2 threeFunctions[1] (List.getElem_mem _) rfl
  exact ⟨p, result, hp, hresult, hid⟩

end EnergyAudit
