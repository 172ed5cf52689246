/-!
# Ascending lists

Finite sets kept as strictly increasing lists, so that equal sets are equal lists.  Elements are
told apart by their order.

## Main definitions

* `Ascending.insert` — adds one element.
* `Ascending.union` — adds all elements of a list.
* `Ascending.ofList` — the elements of any list.

## Main results

* `Ascending.mem_ofList` — an ascending list has the elements that it is made of.
* `Ascending.pairwise_ofList` — it is strictly increasing.
* `Ascending.length_ofList_le` — it is no longer than what it is made of.
-/

namespace EnergyAudit.Ascending

variable {α : Type} [LT α] [DecidableLT α]

/-- Puts an element in its place; an element that is there already is not repeated. -/
def insert (a : α) : List α → List α
  | [] => [a]
  | b :: rest => if a < b then a :: b :: rest else if b < a then b :: insert a rest else b :: rest

/-- All elements of both lists. -/
def union (xs ys : List α) : List α := xs.foldl (fun acc x => insert x acc) ys

/-- The elements of any list, in increasing order and each once. -/
def ofList (xs : List α) : List α := union xs []

theorem ofList_concat (xs : List α) (a : α) : ofList (xs ++ [a]) = insert a (ofList xs) := by
  rw [ofList, union, List.foldl_append]
  rfl

/-! ### Elements -/

/-- An element is found again in the list that it is put in, if the order tells elements apart. -/
theorem mem_insert (htri : ∀ a b : α, ¬ a < b → ¬ b < a → a = b) {a b : α} {xs : List α} :
    b ∈ insert a xs ↔ b = a ∨ b ∈ xs := by
  induction xs with
  | nil => simp [insert]
  | cons x xs ih =>
    unfold insert
    split
    · simp
    · next hax =>
      split
      · simp only [List.mem_cons, ih]
        exact or_left_comm
      · next hxa =>
        obtain rfl := htri a x hax hxa
        simp

theorem mem_union (htri : ∀ a b : α, ¬ a < b → ¬ b < a → a = b) {b : α} {xs : List α} :
    ∀ {ys : List α}, b ∈ union xs ys ↔ b ∈ xs ∨ b ∈ ys := by
  induction xs with
  | nil => intro ys; simp [union]
  | cons x xs ih =>
    intro ys
    have hstep : union (x :: xs) ys = union xs (insert x ys) := rfl
    rw [hstep, ih, mem_insert htri, List.mem_cons, or_left_comm, or_assoc]

theorem mem_ofList (htri : ∀ a b : α, ¬ a < b → ¬ b < a → a = b) {b : α} {xs : List α} :
    b ∈ ofList xs ↔ b ∈ xs := by
  rw [ofList, mem_union htri, or_iff_left List.not_mem_nil]

/-! ### Order -/

theorem pairwise_insert (htri : ∀ a b : α, ¬ a < b → ¬ b < a → a = b)
    (htrans : ∀ {a b c : α}, a < b → b < c → a < c) {a : α} {xs : List α}
    (h : xs.Pairwise (· < ·)) : (insert a xs).Pairwise (· < ·) := by
  induction xs with
  | nil => exact List.pairwise_singleton _ a
  | cons x xs ih =>
    obtain ⟨hx, hxs⟩ := List.pairwise_cons.mp h
    unfold insert
    split
    · next hax =>
      refine List.pairwise_cons.mpr ⟨fun y hy => ?_, h⟩
      rcases List.mem_cons.mp hy with rfl | hy
      · exact hax
      · exact htrans hax (hx y hy)
    · split
      · next hxa =>
        refine List.pairwise_cons.mpr ⟨fun y hy => ?_, ih hxs⟩
        rcases (mem_insert htri).mp hy with rfl | hy
        · exact hxa
        · exact hx y hy
      · exact h

/-- An ascending list is strictly increasing. -/
theorem pairwise_ofList (htri : ∀ a b : α, ¬ a < b → ¬ b < a → a = b)
    (htrans : ∀ {a b c : α}, a < b → b < c → a < c) (xs : List α) :
    (ofList xs).Pairwise (· < ·) := by
  have hunion : ∀ xs ys : List α, ys.Pairwise (· < ·) → (union xs ys).Pairwise (· < ·) := by
    intro xs
    induction xs with
    | nil => exact fun ys hys => hys
    | cons x xs ih => exact fun ys hys => ih _ (pairwise_insert htri htrans hys)
  exact hunion xs [] .nil

/-! ### Length -/

theorem length_insert_le (a : α) (xs : List α) : (insert a xs).length ≤ xs.length + 1 := by
  induction xs with
  | nil => exact Nat.le_refl 1
  | cons x xs ih =>
    unfold insert
    split
    · exact Nat.le_refl _
    · split
      · exact Nat.succ_le_succ ih
      · exact Nat.le_succ _

theorem length_union_le (xs : List α) :
    ∀ ys : List α, (union xs ys).length ≤ xs.length + ys.length := by
  induction xs with
  | nil => intro ys; exact Nat.le_add_left _ _
  | cons x xs ih =>
    intro ys
    have hrest := ih (insert x ys)
    have hx := length_insert_le x ys
    rw [List.length_cons]
    exact Nat.le_trans hrest (by omega)

/-- An ascending list is no longer than the list that it is made of. -/
theorem length_ofList_le (xs : List α) : (ofList xs).length ≤ xs.length :=
  length_union_le xs []

end EnergyAudit.Ascending
