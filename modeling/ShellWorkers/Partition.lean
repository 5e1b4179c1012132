/-!
# Spreading items over workers

`partition` deals the items round robin into a fixed number of buckets, at least one: item `i`
goes to bucket `i % n`, and each bucket keeps the order of the items.
-/

namespace ShellWorkers

/-- the number of buckets -/
def bucketCount (workers : Nat) : Nat := if workers = 0 then 1 else workers

theorem bucketCount_pos (workers : Nat) : 0 < bucketCount workers := by
  unfold bucketCount; split <;> omega

/-- one item more, at the end of the bucket its number selects -/
def deal {α : Type} (buckets : List (List α)) (item : α × Nat) : List (List α) :=
  buckets.modify (item.2 % buckets.length) (· ++ [item.1])

/-- the items dealt into `workers` buckets -/
def partition {α : Type} (items : List α) (workers : Nat) : List (List α) :=
  items.zipIdx.foldl deal (List.replicate (bucketCount workers) [])

theorem length_deal {α : Type} (buckets : List (List α)) (item : α × Nat) :
    (deal buckets item).length = buckets.length := by simp [deal]

theorem length_foldl_deal {α : Type} (items : List (α × Nat)) (buckets : List (List α)) :
    (items.foldl deal buckets).length = buckets.length := by
  induction items generalizing buckets with
  | nil => rfl
  | cons x items ih => rw [List.foldl_cons, ih, length_deal]

/-- there are as many buckets as workers, and one when there are none -/
theorem length_partition {α : Type} (items : List α) (workers : Nat) :
    (partition items workers).length = bucketCount workers := by
  rw [partition, length_foldl_deal, List.length_replicate]

end ShellWorkers
