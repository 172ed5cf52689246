import EnergyAudit.Proofs.Score.Places

/-!
# Rankings of part of a list

The order in which two functions are ranked depends on these two alone: on their scores, on their
lines, and on which of them is listed first.  So the ranking of some of the listed functions is what
is left of the ranking of all.  If the functions start on lines of their own, the order in which
they are listed makes no difference either.

## Main definitions

* `chosenAt` — the functions at some positions of a list.

## Main results

* `recordsByRank_eq_of_perm` — the order of the list makes no difference.
* `recordsByRank_chosenAt` — the ranking of some functions is that of all without the others.
* `rankRecords_restricts` — both for the ranking with its scores.
-/

namespace EnergyAudit

open FunctionRecord

variable {records : List FunctionRecord}

/-! ### Another order of the list -/

/-- Functions on lines of their own are ranked in one order only. -/
theorem recordsByRank_eq_of_perm {other : List FunctionRecord} (hperm : other.Perm records)
    (hlines : (records.map (·.startLine)).Nodup) : recordsByRank other = recordsByRank records := by
  have hsame : (recordsByRank other).Perm (recordsByRank records) :=
    (recordsByRank_perm other).trans (hperm.trans (recordsByRank_perm records).symm)
  refine List.Perm.eq_of_pairwise ?_ (pairwise_recordsByRank other)
    (pairwise_recordsByRank records) hsame
  intro a b ha hb hab hba
  have ha' : a ∈ records := hperm.subset ((recordsByRank_perm other).subset ha)
  have hb' : b ∈ records := (recordsByRank_perm records).subset hb
  refine List.inj_on_of_nodup_map hlines ha' hb' ?_
  -- Each may go before the other, so neither starts on an earlier line.
  rw [goesBefore_iff, UInt64.lt_iff_toNat_lt, ← UInt64.toNat_inj] at hab hba
  omega

/-! ### Part of the list -/

namespace Outranks

variable {a b : FunctionRecord × Nat}

/-- A listed function that may go before another one goes strictly before it, unless that one may go
before it as well and is listed earlier. -/
theorem of_goesBefore (hab : a.1.goesBefore b.1 = true)
    (htie : b.1.goesBefore a.1 = true → a.2 < b.2) : Outranks a b := by
  rw [goesBefore_iff] at hab htie
  unfold Outranks
  rw [UInt64.lt_iff_toNat_lt, ← UInt64.toNat_inj] at *
  omega

end Outranks

/-- The positions at which functions are listed increase. -/
theorem pairwise_position_zipIdx (records : List FunctionRecord) :
    records.zipIdx.Pairwise fun a b => a.2 < b.2 := by
  have hrange : (records.zipIdx.map Prod.snd).Pairwise (· < ·) := by
    rw [List.zipIdx_map_snd]
    exact List.pairwise_lt_range'
  exact List.pairwise_map.mp hrange

theorem nodup_of_pairwise_position {listed : List (FunctionRecord × Nat)}
    (h : listed.Pairwise fun a b => a.2 < b.2) : listed.Nodup :=
  h.imp fun hlt => ne_of_apply_ne Prod.snd (Nat.ne_of_lt hlt)

/-- The functions at some positions of a list. -/
def chosenAt (keep : Nat → Bool) (records : List FunctionRecord) : List FunctionRecord :=
  (records.zipIdx.filter fun a => keep a.2).map Prod.fst

/-- Whatever part of a list there is, it is told by positions. -/
theorem exists_chosenAt_eq {part : List FunctionRecord} (h : part.Sublist records) :
    ∃ keep, part = chosenAt keep records := by
  rw [← List.zipIdx_map_fst 0 records] at h
  obtain ⟨chosen, hchosen, rfl⟩ := List.sublist_map_iff.mp h
  have hpositions := pairwise_position_zipIdx records
  refine ⟨fun i => i ∈ chosen.map Prod.snd, congrArg (List.map Prod.fst) ?_⟩
  -- The positions increase, so it is enough that the same functions are chosen.
  refine List.Perm.eq_of_pairwise (fun a b _ _ hab hba => absurd hba (Nat.lt_asymm hab))
    (hpositions.sublist hchosen) (hpositions.filter _) ?_
  have hnodup : records.zipIdx.Nodup := nodup_of_pairwise_position hpositions
  refine (List.perm_ext_iff_of_nodup (hnodup.sublist hchosen) (hnodup.filter _)).mpr fun a => ?_
  rw [List.mem_filter, decide_eq_true_eq, List.mem_map]
  constructor
  · intro ha
    exact ⟨hchosen.subset ha, a, ha, rfl⟩
  · rintro ⟨ha, c, hc, hposition⟩
    have hdistinct : (records.zipIdx.map Prod.snd).Nodup :=
      List.pairwise_map.mpr (hpositions.imp Nat.ne_of_lt)
    exact List.inj_on_of_nodup_map hdistinct (hchosen.subset hc) ha hposition ▸ hc

/-- Some of the listed functions by rank: what goes before what comes from the whole list. -/
theorem pairwise_mergeSort_filter_zipIdx (records : List FunctionRecord) (keep : Nat → Bool) :
    ((records.zipIdx.filter fun a => keep a.2).mergeSort fun a b => a.1.goesBefore b.1).Pairwise
      Outranks := by
  have hpositions := (pairwise_position_zipIdx records).filter fun a => keep a.2
  have hstable := pairwise_mergeSort_stable (fun a b => a.1.goesBefore b.1)
    (fun _ _ _ => goesBefore_trans) (fun a b => goesBefore_total a.1 b.1)
    (nodup_of_pairwise_position hpositions)
  refine hstable.imp fun ⟨hab, htie⟩ => Outranks.of_goesBefore hab fun hba => ?_
  exact List.rel_of_pairwise_cons (hpositions.sublist (htie hba)) List.mem_cons_self

/-- The ranking of some functions is that of all without the others. -/
theorem recordsByRank_chosenAt (keep : Nat → Bool) (records : List FunctionRecord) :
    recordsByRank (chosenAt keep records) =
      ((listingByRank records).filter fun a => keep a.2).map Prod.fst := by
  rw [recordsByRank, chosenAt, ← List.map_mergeSort (f := Prod.fst) (s := goesBefore)
    (r := fun a b => a.1.goesBefore b.1) fun _ _ _ _ => rfl]
  congr 1
  refine List.Perm.eq_of_pairwise (fun a b _ _ hab hba => absurd hba hab.not_symm)
    (pairwise_mergeSort_filter_zipIdx records keep) ((pairwise_listingByRank records).filter _) ?_
  exact (List.mergeSort_perm _ _).trans ((listingByRank_perm records).symm.filter _)

/-! ### Scores -/

/-- **The ranking depends neither on the order of the list nor on other functions.**  If no two
functions start on one line, the ranking is the same however they are listed.  And of whichever
functions there are, the ranking of some of them, chosen by their positions in the list, is that of
all with the others left out: in the same order, each with its own score and breakdown, only the
ranks are counted anew. -/
theorem rankRecords_restricts (records : List FunctionRecord) :
    ((records.map (·.startLine)).Nodup →
      ∀ other : List FunctionRecord, other.Perm records → rankRecords other = rankRecords records) ∧
      (∀ part : List FunctionRecord, part.Sublist records →
        ∃ keep, part = chosenAt keep records) ∧
      ∃ listing : List (FunctionRecord × Nat), listing.Perm records.zipIdx ∧
        rankRecords records = listing.mapIdx (fun place a => a.1.hotspotScore (place + 1)) ∧
        ∀ keep, rankRecords (chosenAt keep records) =
          (listing.filter fun a => keep a.2).mapIdx fun place a => a.1.hotspotScore (place + 1) := by
  refine ⟨fun hlines other hperm => ?_, fun part hpart => exists_chosenAt_eq hpart,
    listingByRank records, listingByRank_perm records, ?_, fun keep => ?_⟩
  · rw [rankRecords, recordsByRank_eq_of_perm hperm hlines, rankRecords]
  · exact rankRecords_eq_mapIdx (map_fst_listingByRank records).symm
  · exact rankRecords_eq_mapIdx (recordsByRank_chosenAt keep records)

/-- Functions with equal scores on lines of their own, of which the last one is listed first. -/
def threeLines : List FunctionRecord :=
  [9, 4, 1].map fun line =>
    { (default : FunctionRecord) with
      id := .ofNameAndLine "f" line, span := ⟨0, 0, line, 1, line, 1⟩ }

/-- Functions with equal scores are ranked by their lines, whichever way round they are listed, and
the first and the last one of the list are chosen by their positions. -/
theorem rankRecords_restricts_threeLines :
    (threeLines.map (·.startLine)).Nodup ∧ threeLines.reverse.Perm threeLines ∧
      rankRecords threeLines.reverse = rankRecords threeLines ∧
      (threeLines.eraseIdx 1).Sublist threeLines ∧
      ∃ keep, threeLines.eraseIdx 1 = chosenAt keep threeLines := by
  have hlines : (threeLines.map (·.startLine)).Nodup := by decide
  have hperm : threeLines.reverse.Perm threeLines := List.reverse_perm threeLines
  have hpart : (threeLines.eraseIdx 1).Sublist threeLines := List.eraseIdx_sublist threeLines 1
  obtain ⟨horder, hchosen, -⟩ := rankRecords_restricts threeLines
  exact ⟨hlines, hperm, horder hlines _ hperm, hpart, hchosen _ hpart⟩

end EnergyAudit
