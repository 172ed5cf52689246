import EnergyAudit.Proofs.Score.Ranking

/-!
# Places in the ranking

A function that is listed more than once has as many places in the ranking, so a place is told here
by a function together with the position at which it is listed.  Of two of these one goes strictly
before the other: by the score, then by the line on which it starts, then by the position.

## Main definitions

* `Outranks` — a listed function goes strictly before another one.
* `listingByRank` — the listed functions in the order of their ranks.

## Main results

* `listingByRank_perm`, `map_fst_listingByRank` — it holds what is listed, as the ranking has it.
* `pairwise_listingByRank` — each goes strictly before those behind it.
* `rankRecords_places` — what the ranking holds, place by place.
-/

namespace EnergyAudit

open FunctionRecord

/-- A listed function goes strictly before another one: it scores more; or as much, and it starts on
an earlier line; or as much on the same line, and it is listed earlier. -/
def Outranks (a b : FunctionRecord × Nat) : Prop :=
  b.1.score < a.1.score ∨ (a.1.score = b.1.score ∧
    (a.1.startLine < b.1.startLine ∨ (a.1.startLine = b.1.startLine ∧ a.2 < b.2)))

namespace Outranks

variable {a b : FunctionRecord × Nat}

theorem not_symm (hab : Outranks a b) : ¬ Outranks b a := by
  unfold Outranks at *
  rw [UInt64.lt_iff_toNat_lt, ← UInt64.toNat_inj] at *
  omega

/-- What is listed at different positions goes before each other just if a stable sort keeps it in
this order. -/
theorem iff_of_ne (h : a.2 ≠ b.2) :
    Outranks a b ↔ List.zipIdxLE goesBefore a b = true := by
  have hgoes : ∀ x y : FunctionRecord × Nat, x.1.goesBefore y.1 = true ↔
      y.1.score.toNat < x.1.score.toNat ∨
        (x.1.score.toNat = y.1.score.toNat ∧ x.1.startLine ≤ y.1.startLine) := by
    intro x y
    rw [goesBefore_iff, UInt64.lt_iff_toNat_lt, UInt64.toNat_inj]
  have hkeep : List.zipIdxLE goesBefore a b = true ↔ a.1.goesBefore b.1 = true ∧
      (b.1.goesBefore a.1 = true → a.2 ≤ b.2) := by
    cases hba : b.1.goesBefore a.1 <;> simp [List.zipIdxLE, hba]
  rw [hkeep, hgoes, hgoes, Outranks, UInt64.lt_iff_toNat_lt, ← UInt64.toNat_inj]
  omega

end Outranks

variable {records : List FunctionRecord}

/-- The listed functions in the order of their ranks. -/
def listingByRank (records : List FunctionRecord) : List (FunctionRecord × Nat) :=
  records.zipIdx.mergeSort (List.zipIdxLE goesBefore)

theorem listingByRank_perm (records : List FunctionRecord) :
    (listingByRank records).Perm records.zipIdx :=
  List.mergeSort_perm _ _

theorem map_fst_listingByRank (records : List FunctionRecord) :
    (listingByRank records).map Prod.fst = recordsByRank records :=
  List.mergeSort_zipIdx

/-- No two functions are listed at one position. -/
theorem nodup_positions (records : List FunctionRecord) :
    ((listingByRank records).map Prod.snd).Nodup := by
  rw [((listingByRank_perm records).map Prod.snd).nodup_iff, List.zipIdx_map_snd]
  exact List.nodup_range'

/-- Each listed function goes strictly before those behind it. -/
theorem pairwise_listingByRank (records : List FunctionRecord) :
    (listingByRank records).Pairwise Outranks := by
  have hsorted : (listingByRank records).Pairwise fun a b => List.zipIdxLE goesBefore a b = true :=
    @List.pairwise_mergeSort _ (List.zipIdxLE goesBefore)
      (@List.zipIdxLE_trans _ goesBefore fun _ _ _ => goesBefore_trans)
      (@List.zipIdxLE_total _ goesBefore goesBefore_total) records.zipIdx
  have hpositions := List.pairwise_map.mp (nodup_positions records)
  exact (hsorted.and hpositions).imp fun ⟨hkept, hne⟩ => (Outranks.iff_of_ne hne).mpr hkept

/-- In a list that is ordered strictly the places tell the order. -/
theorem lt_iff_of_pairwise {α : Type} {r : α → α → Prop} (hr : ∀ {a b}, r a b → ¬ r b a)
    {as : List α} (has : as.Pairwise r) {k l : Nat} {a b : α} (hk : as[k]? = some a)
    (hl : as[l]? = some b) : k < l ↔ r a b := by
  obtain ⟨hklt, rfl⟩ := List.getElem?_eq_some_iff.mp hk
  obtain ⟨hllt, rfl⟩ := List.getElem?_eq_some_iff.mp hl
  have hrel := List.pairwise_iff_getElem.mp has
  rcases Nat.lt_trichotomy k l with h | rfl | h
  · exact iff_of_true h (hrel k l hklt hllt h)
  · exact iff_of_false (Nat.lt_irrefl k) fun h => hr h h
  · exact iff_of_false (Nat.lt_asymm h) (hr (hrel l k hllt hklt h))

/-- **The ranking holds all that is listed, in strict order.**  The entry in each place belongs to
one listed function, with its own score and the rank of the place; every listed function has just
one place, and it goes before another one just if it scores more, or starts on an earlier line with
the same score, or is listed earlier with the same score and line. -/
theorem rankRecords_places (records : List FunctionRecord) :
    ∃ listing : List (FunctionRecord × Nat), listing.Perm records.zipIdx ∧
      rankRecords records = listing.mapIdx (fun place a =>
        { functionId := a.1.id
          score := (ScoreBreakdown.ofRecord a.1).total
          rank := place + 1
          breakdown := .ofRecord a.1 }) ∧
      ∀ (k l : Nat) (a b : FunctionRecord × Nat), listing[k]? = some a → listing[l]? = some b →
        (k < l ↔ Outranks a b) := by
  refine ⟨listingByRank records, listingByRank_perm records, ?_, ?_⟩
  · refine List.ext_getElem? fun place => ?_
    rw [getElem?_rankRecords, ← map_fst_listingByRank, List.getElem?_map, List.getElem?_mapIdx,
      Option.map_map]
    rfl
  · intro k l a b
    exact lt_iff_of_pairwise Outranks.not_symm (pairwise_listingByRank records)

end EnergyAudit
