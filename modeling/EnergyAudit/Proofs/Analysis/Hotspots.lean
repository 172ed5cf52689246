import EnergyAudit.Analysis.Session
import EnergyAudit.Proofs.Score.Ranking
import Std.Data.HashMap.Lemmas

/-!
# The hotspots of a session

A session keeps its functions three times: as a list in the order of the source, as a table by their
ids, and as a list of scores by rank.  The rows of its report are made of the scores and of what the
table says under their ids.  If no two functions have one id, the three agree: the rows are the
functions by rank, each just once and with its own score.

## Main definitions

* `Session.ofAccesses` — a session of known functions that was asked about at some times.

## Main results

* `Session.record?_ofRecords` — the table gives every function under its id.
* `Session.record?_ofRecords_eq_some_iff` — and it gives nothing else.
* `Session.hotspots_ofRecords` — the rows are the functions by rank.
* `Session.lt_hotspotCount_iff` — the rows above the least score come first.
* `Session.faithful_report` — what the report says of the functions.
-/

namespace EnergyAudit

deriving instance ReflBEq, LawfulBEq for FunctionId

namespace Session

variable {u : SourceUnit} {records : List FunctionRecord} {rate : Float} {now : Nat}

/-- The session of a source with known functions after it was asked about at some times. -/
def ofAccesses (u : SourceUnit) (records : List FunctionRecord) (rate : Float) (created : Nat)
    (accesses : List Nat) : Session :=
  accesses.foldl touched (ofRecords u records rate created)

/-- That it was asked about changes nothing but the time of the last access. -/
theorem exists_ofAccesses_eq (u : SourceUnit) (records : List FunctionRecord) (rate : Float)
    (created : Nat) (accesses : List Nat) :
    ∃ latest, ofAccesses u records rate created accesses =
      (ofRecords u records rate created).touched latest := by
  have key : ∀ {accesses : List Nat} {latest : Nat}, ∃ later,
      accesses.foldl touched ((ofRecords u records rate created).touched latest) =
        (ofRecords u records rate created).touched later := by
    intro accesses
    induction accesses with
    | nil => intro latest; exact ⟨latest, rfl⟩
    | cons access accesses ih => intro latest; exact ih
  exact @key accesses created

@[simp] theorem hotspots_touched (s : Session) : (s.touched now).hotspots = s.hotspots := rfl

@[simp] theorem report_touched (s : Session) : (s.touched now).report = s.report := rfl

@[simp] theorem record?_touched (s : Session) (id : FunctionId) :
    (s.touched now).record? id = s.record? id := rfl

@[simp] theorem scoreFor?_touched (s : Session) (id : FunctionId) :
    (s.touched now).scoreFor? id = s.scoreFor? id := rfl

/-! ### The table -/

/-- The places of functions with their ids. -/
def places (records : List FunctionRecord) : List (FunctionId × Nat) :=
  records.zipIdx.map fun (r, place) => (r.id, place)

theorem map_fst_places (records : List FunctionRecord) :
    (places records).map (·.1) = records.map (·.id) := by
  rw [places, List.map_map]
  conv_rhs => rw [← List.zipIdx_map_fst 0 records, List.map_map]
  rfl

/-- No id is in the table twice if no two functions have the same. -/
theorem pairwise_places (hdistinct : (records.map (·.id)).Nodup) :
    (places records).Pairwise fun a b => (a.1 == b.1) = false := by
  rw [← map_fst_places, List.Nodup, List.pairwise_map] at hdistinct
  exact hdistinct.imp beq_false_of_ne

/-- The table gives every function under its id if no two have the same. -/
theorem record?_ofRecords (hdistinct : (records.map (·.id)).Nodup) {r : FunctionRecord}
    (hr : r ∈ records) : (ofRecords u records rate now).record? r.id = some r := by
  obtain ⟨place, hplace⟩ := List.mem_iff_getElem?.mp hr
  have hmem : (r.id, place) ∈ places records :=
    List.mem_map.mpr ⟨(r, place), List.mem_zipIdx_iff_getElem?.mpr hplace, rfl⟩
  have hindex : (ofRecords u records rate now).index[r.id]? = some place :=
    Std.HashMap.getElem?_ofList_of_mem (beq_self_eq_true r.id) (pairwise_places hdistinct) hmem
  rw [record?, hindex]
  exact hplace

/-- Two functions of one id are the same. -/
theorem eq_of_id_eq (hdistinct : (records.map (·.id)).Nodup) {a b : FunctionRecord}
    (ha : a ∈ records) (hb : b ∈ records) (h : a.id = b.id) : a = b :=
  List.inj_on_of_nodup_map hdistinct ha hb h

/-- The table knows no other ids than those of functions. -/
theorem record?_ofRecords_eq_none {id : FunctionId} (h : id ∉ records.map (·.id)) :
    (ofRecords u records rate now).record? id = none := by
  have hindex : (ofRecords u records rate now).index[id]? = none := by
    refine Std.HashMap.getElem?_ofList_of_contains_eq_false (l := places records) ?_
    rw [map_fst_places, Bool.eq_false_iff]
    exact fun hcontains => h (List.contains_iff_mem.mp hcontains)
  rw [record?, hindex, Option.bind_none]

/-- What the table gives under an id is the function with this id. -/
theorem record?_ofRecords_eq_some_iff (hdistinct : (records.map (·.id)).Nodup) {id : FunctionId}
    {r : FunctionRecord} :
    (ofRecords u records rate now).record? id = some r ↔ r ∈ records ∧ r.id = id := by
  constructor
  · intro h
    by_cases hid : id ∈ records.map (·.id)
    · obtain ⟨other, hother, rfl⟩ := List.mem_map.mp hid
      obtain rfl := Option.some.inj ((record?_ofRecords hdistinct hother).symm.trans h)
      exact ⟨hother, rfl⟩
    · cases (record?_ofRecords_eq_none hid).symm.trans h
  · rintro ⟨hr, rfl⟩
    exact record?_ofRecords hdistinct hr

/-! ### The rows -/

/-- The row of a function in some place of the ranking. -/
def row (rate : Float) (place : Nat) (r : FunctionRecord) : Hotspot :=
  .ofRecord r (r.hotspotScore (place + 1)) rate

theorem isAboveBaseline_row (rate : Float) (place : Nat) (r : FunctionRecord) :
    (row rate place r).isAboveBaseline = true ↔ baselineScore < r.score :=
  decide_eq_true_iff

/-- The rows are the functions by rank: none is dropped, and each has its own score. -/
theorem hotspots_ofRecords (hdistinct : (records.map (·.id)).Nodup) :
    (ofRecords u records rate now).hotspots = (recordsByRank records).mapIdx (row rate) := by
  have hscores : (ofRecords u records rate now).scores =
      (recordsByRank records).zipIdx.map fun (r, place) => r.hotspotScore (place + 1) :=
    List.mapIdx_eq_zipIdx_map
  rw [hotspots, hscores, List.filterMap_map, List.mapIdx_eq_zipIdx_map, ← List.filterMap_eq_map]
  refine List.filterMap_congr ?_
  rintro ⟨r, place⟩ hr
  have hmem : r ∈ records :=
    (recordsByRank_perm records).subset (List.fst_mem_of_mem_zipIdx hr)
  have hfound : (ofRecords u records rate now).record? r.id = some r :=
    record?_ofRecords hdistinct hmem
  exact congrArg (Option.map _) hfound

/-- The row in some place is that of the function in this place of the ranking. -/
theorem getElem?_hotspots (hdistinct : (records.map (·.id)).Nodup) (place : Nat) :
    (ofRecords u records rate now).hotspots[place]? =
      (recordsByRank records)[place]?.map (row rate place) := by
  rw [hotspots_ofRecords hdistinct, List.getElem?_mapIdx]

theorem map_functionId_hotspots (hdistinct : (records.map (·.id)).Nodup) :
    (ofRecords u records rate now).hotspots.map (·.functionId) =
      (recordsByRank records).map (·.id) := by
  rw [hotspots_ofRecords hdistinct, List.mapIdx_eq_zipIdx_map, List.map_map,
    ← List.zipIdx_map_fst 0 (recordsByRank records), List.map_map, List.zipIdx_map_fst]
  rfl

/-- What holds of every function and those behind it in the ranking holds of their rows. -/
theorem pairwise_hotspots (hdistinct : (records.map (·.id)).Nodup) {R : Hotspot → Hotspot → Prop}
    (h : (recordsByRank records).Pairwise fun a b =>
      ∀ place place', R (row rate place a) (row rate place' b)) :
    (ofRecords u records rate now).hotspots.Pairwise R := by
  rw [hotspots_ofRecords hdistinct, List.mapIdx_eq_zipIdx_map, List.pairwise_map]
  rw [← List.zipIdx_map_fst 0 (recordsByRank records), List.pairwise_map] at h
  exact h.imp fun hab => hab _ _

/-- The first score under the id of a function is the one in its place of the ranking. -/
theorem scoreFor?_ofRecords (hdistinct : (records.map (·.id)).Nodup) {place : Nat}
    {r : FunctionRecord} (hr : (recordsByRank records)[place]? = some r) :
    (ofRecords u records rate now).scoreFor? r.id = some (r.hotspotScore (place + 1)) := by
  have hids : ((recordsByRank records).map (·.id)).Nodup :=
    ((recordsByRank_perm records).map _).nodup_iff.mpr hdistinct
  have hget : (rankRecords records)[place]? = some (r.hotspotScore (place + 1)) := by
    rw [getElem?_rankRecords, hr, Option.map_some]
  obtain ⟨hplace, hscore⟩ := List.getElem?_eq_some_iff.mp hget
  refine List.find?_eq_some_iff_getElem.mpr ⟨beq_self_eq_true r.id, place, hplace, hscore, ?_⟩
  intro earlier hearlier
  have hother := getElem?_rankRecords records earlier
  rw [List.getElem?_eq_getElem (Nat.lt_trans hearlier hplace), eq_comm, Option.map_eq_some_iff]
    at hother
  obtain ⟨other, hget', hother⟩ := hother
  -- A function that is ranked higher has another id.
  have hne : other.id ≠ r.id := by
    intro hid
    have hsame : ((recordsByRank records).map (·.id))[earlier]? =
        ((recordsByRank records).map (·.id))[place]? := by
      rw [List.getElem?_map, List.getElem?_map, hget', hr, Option.map_some, Option.map_some, hid]
    have hbound : earlier < ((recordsByRank records).map (·.id)).length := by
      rw [List.length_map]
      exact (List.getElem?_eq_some_iff.mp hget').1
    exact Nat.ne_of_lt hearlier ((List.getElem?_inj hbound hids).mp hsame)
  show (!((rankRecords records)[earlier].functionId == r.id)) = true
  rw [← hother]
  simpa [FunctionRecord.hotspotScore] using hne

/-! ### Rows above the least score -/

/-- If everything before an element with some property has it too, then the elements with the
property are the first ones. -/
theorem lt_countP_iff {α : Type} {p : α → Bool} {as : List α}
    (h : as.Pairwise fun a b => p b = true → p a = true) : ∀ {place : Nat} {a : α},
      as[place]? = some a → (place < as.countP p ↔ p a = true) := by
  induction as with
  | nil => intro place a ha; simp at ha
  | cons b as ih =>
    obtain ⟨hb, has⟩ := List.pairwise_cons.mp h
    intro place a ha
    cases hp : p b with
    | false =>
      -- Nothing behind an element without the property has it.
      have hnone : ∀ c ∈ b :: as, p c = false := by
        intro c hc
        rcases List.mem_cons.mp hc with rfl | hc
        · exact hp
        · exact Bool.eq_false_iff.mpr fun hpc => by simp [hb c hc hpc] at hp
      rw [List.countP_eq_zero.mpr fun c hc => by simp [hnone c hc],
        hnone a (List.mem_of_getElem? ha)]
      simp
    | true =>
      rw [List.countP_cons_of_pos hp]
      cases place with
      | zero =>
        obtain rfl : b = a := by simpa using ha
        simp [hp]
      | succ place =>
        rw [Nat.add_lt_add_iff_right]
        exact ih has (by simpa using ha)

/-- The rows above the least score come first. -/
theorem lt_hotspotCount_iff (hdistinct : (records.map (·.id)).Nodup) {place : Nat} {h : Hotspot}
    (hh : (ofRecords u records rate now).hotspots[place]? = some h) :
    place < (ofRecords u records rate now).report.summary.hotspotCount ↔
      baselineScore < h.score := by
  have hpairwise : (ofRecords u records rate now).hotspots.Pairwise fun a b =>
      b.isAboveBaseline = true → a.isAboveBaseline = true := by
    refine pairwise_hotspots hdistinct ((pairwise_recordsByRank records).imp ?_)
    intro a b hab place place' hb
    rw [isAboveBaseline_row] at hb ⊢
    exact UInt64.lt_of_lt_of_le hb (FunctionRecord.score_le_of_goesBefore hab)
  exact (lt_countP_iff hpairwise hh).trans decide_eq_true_iff

end Session

/-! ### The report -/

/-- What a row tells is true of a function. -/
structure Hotspot.IsOf (row : Hotspot) (r : FunctionRecord) : Prop where
  functionId : row.functionId = r.id
  name : row.name = r.qualifiedName
  startLine : row.startLine = r.startLine
  endLine : row.endLine = r.endLine
  source : row.source = r.source
  reasons : row.reasons = r.reasons
  category : row.category = r.category
  score : row.score = r.score

namespace Session

variable {u : SourceUnit} {records : List FunctionRecord} {rate : Float} {now : Nat}

theorem isOf_row (rate : Float) (place : Nat) (r : FunctionRecord) : (row rate place r).IsOf r :=
  ⟨rfl, rfl, rfl, rfl, rfl, rfl, rfl, rfl⟩

/-- What a row tells is true of the one function with its id, under which the session gives this
function and its score. -/
theorem exists_isOf_of_mem_hotspots (hdistinct : (records.map (·.id)).Nodup) {h : Hotspot}
    (hh : h ∈ (ofRecords u records rate now).hotspots) :
    ∃ r ∈ records, h.IsOf r ∧
      (∀ other ∈ records, other.id = h.functionId → other = r) ∧
      (ofRecords u records rate now).record? h.functionId = some r ∧
      (ofRecords u records rate now).scoreFor? h.functionId =
        some ⟨h.functionId, h.score, h.rank, .ofRecord r⟩ := by
  obtain ⟨place, hplace⟩ := List.mem_iff_getElem?.mp hh
  rw [getElem?_hotspots hdistinct] at hplace
  obtain ⟨r, hr, rfl⟩ := Option.map_eq_some_iff.mp hplace
  have hmem : r ∈ records := (recordsByRank_perm records).subset (List.mem_of_getElem? hr)
  refine ⟨r, hmem, isOf_row rate place r, ?_, record?_ofRecords hdistinct hmem,
    scoreFor?_ofRecords hdistinct hr⟩
  intro other hother hid
  exact eq_of_id_eq hdistinct hother hmem hid

/-- The rows are in the order of their scores, and those with equal scores in that of the source. -/
theorem pairwise_hotspots_ofRecords (hdistinct : (records.map (·.id)).Nodup) :
    (ofRecords u records rate now).hotspots.Pairwise fun a b => b.score ≤ a.score ∧
      ∀ ra ∈ records, ∀ rb ∈ records, a.IsOf ra → b.IsOf rb → a.score = b.score →
        FunctionRecord.ComesEarlier records ra rb := by
  refine pairwise_hotspots hdistinct (List.pairwise_iff_forall_sublist.mpr ?_)
  intro a b hab place place'
  have ha : a ∈ records := (recordsByRank_perm records).subset (hab.subset (by simp))
  have hb : b ∈ records := (recordsByRank_perm records).subset (hab.subset (by simp))
  refine ⟨FunctionRecord.score_le_of_goesBefore
    (List.pairwise_iff_forall_sublist.mp (pairwise_recordsByRank records) hab), ?_⟩
  intro ra hra rb hrb hisOfA hisOfB hscore
  obtain rfl := eq_of_id_eq hdistinct ha hra hisOfA.functionId
  obtain rfl := eq_of_id_eq hdistinct hb hrb hisOfB.functionId
  exact comesEarlier_of_sublist_recordsByRank hdistinct.of_map hab hscore

end Session

/-- **What the report of a session says of its functions**, if no two of them have one id.  There is
just one row for each function, and all that a row tells is true of the one function with its id;
under this id the session gives the function and the score of the row.  The rows are ranked from the
highest score to the lowest, and those with equal scores stand as they do in the source.  The ones
that score above the least are the first ones, as many as the summary says. -/
theorem Session.faithful_report (u : SourceUnit) (records : List FunctionRecord) (rate : Float)
    (created : Nat) (accesses : List Nat) (hdistinct : (records.map (·.id)).Nodup) :
    let s := ofAccesses u records rate created accesses
    let rows := s.hotspots
    let summary := s.report.summary
    s.report.hotspots = rows ∧
      rows.length = summary.functionCount ∧
      summary.functionCount = records.length ∧
      (rows.map (·.functionId)).Perm (records.map (·.id)) ∧
      (∀ place row, rows[place]? = some row → row.rank = place + 1) ∧
      (∀ row ∈ rows, ∃ r ∈ records,
        row.IsOf r ∧ (∀ other ∈ records, other.id = row.functionId → other = r) ∧
        s.select row.functionId = .ok r ∧
        s.scoreFor? row.functionId = some ⟨row.functionId, row.score, row.rank, .ofRecord r⟩) ∧
      rows.Pairwise (fun a b => b.score ≤ a.score ∧
        ∀ ra ∈ records, ∀ rb ∈ records, a.IsOf ra → b.IsOf rb → a.score = b.score →
          FunctionRecord.ComesEarlier records ra rb) ∧
      summary.hotspotCount = rows.countP (fun row => baselineScore < row.score) ∧
      ∀ place row, rows[place]? = some row →
        (place < summary.hotspotCount ↔ baselineScore < row.score) := by
  intro s rows summary
  -- When the session was asked about shows in no row.
  obtain ⟨latest, hs⟩ : ∃ latest, s = (ofRecords u records rate created).touched latest :=
    exists_ofAccesses_eq u records rate created accesses
  have hrows : rows = (ofRecords u records rate created).hotspots := by
    simp only [rows, hs, hotspots_touched]
  have hsummary : summary = (ofRecords u records rate created).report.summary := by
    simp only [summary, hs, report_touched]
  have hcount : summary.functionCount = records.length := by
    rw [hsummary]
    rfl
  refine ⟨rfl, ?_, hcount, ?_, ?_, ?_, ?_, rfl, ?_⟩
  · rw [hcount, hrows, hotspots_ofRecords hdistinct, List.length_mapIdx,
      (recordsByRank_perm records).length_eq]
  · rw [hrows, map_functionId_hotspots hdistinct]
    exact (recordsByRank_perm records).map _
  · intro place row hrow
    rw [hrows, getElem?_hotspots hdistinct] at hrow
    obtain ⟨r, -, rfl⟩ := Option.map_eq_some_iff.mp hrow
    rfl
  · intro row hrow
    obtain ⟨r, hmem, hisOf, honly, hrecord, hscore⟩ :=
      exists_isOf_of_mem_hotspots hdistinct (hrows ▸ hrow)
    refine ⟨r, hmem, hisOf, honly, ?_, ?_⟩
    · rw [select, hs, record?_touched, hrecord]
    · rw [hs, scoreFor?_touched, hscore]
  · rw [hrows]
    exact pairwise_hotspots_ofRecords hdistinct
  · intro place row hrow
    rw [hsummary]
    exact lt_hotspotCount_iff hdistinct (hrows ▸ hrow)

/-- A function with nested loops between two without any, of which the one that starts first is
listed last. -/
def Session.threeFunctions : List FunctionRecord :=
  [{ (default : FunctionRecord) with id := ⟨"late@9"⟩, span := ⟨80, 95, 9, 1, 9, 16⟩ },
    { (default : FunctionRecord) with
      id := ⟨"loops@4"⟩, span := ⟨30, 79, 4, 1, 7, 9⟩, loopDepth := 2 },
    { (default : FunctionRecord) with id := ⟨"early@1"⟩, span := ⟨0, 29, 1, 1, 2, 9⟩ }]

/-- The report of a session with three functions has three rows, one for each of them. -/
theorem Session.faithful_report_threeFunctions :
    let s := ofAccesses ⟨"", "python", defaultFilename⟩ threeFunctions 8.0 0 [5, 7]
    (threeFunctions.map (·.id)).Nodup ∧ s.hotspots.length = 3 ∧ s.report.summary.functionCount = 3 ∧
      (s.hotspots.map (·.functionId)).Perm [⟨"late@9"⟩, ⟨"loops@4"⟩, ⟨"early@1"⟩] := by
  intro s
  have hdistinct : (threeFunctions.map (·.id)).Nodup := by decide
  obtain ⟨-, hlength, hcount, hids, -⟩ :=
    faithful_report ⟨"", "python", defaultFilename⟩ threeFunctions 8.0 0 [5, 7] hdistinct
  exact ⟨hdistinct, hlength.trans hcount, hcount, hids⟩

end EnergyAudit
