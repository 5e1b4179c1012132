import ShellWorkers.Proofs.RoundRobin

/-!
# Dealing in rounds

Dealt round robin, the items go out in rounds, one to each bucket, and only the last round may be
over before every bucket has its item.  So the buckets have a closed form, hardly differ in length,
and give the items back when they are read round by round.

* `share n w items`        the items at the positions `w`, `n + w`, `2 * n + w` and so on;
* `IsDealt.eq_share`       a bucket is its share;
* `IsDealt.length_le`      a later bucket is shorter by one item at most, and never longer;
* `column k buckets`       the items of round `k`;
* `byColumns_partition`    the rounds, one after another, are the items;
* `partition_closedForm`   all this for every number of workers.
-/

namespace ShellWorkers

variable {α : Type}

theorem bucketCount_eq_max (workers : Nat) : bucketCount workers = max workers 1 := by
  unfold bucketCount
  split <;> omega

/-! ## lists by their positions -/

theorem filterMap_getElem?_range (items : List α) (m : Nat) :
    (List.range m).filterMap (fun k => items[k]?) = items.take m := by
  induction m with
  | zero => rfl
  | succ m ih =>
    rw [List.range_succ, List.filterMap_append, ih, List.take_add_one]
    cases h : items[m]? <;> simp [h]

/-- the first `m` rounds of `n` items each -/
theorem flatMap_rounds (items : List α) (n m : Nat) :
    (List.range m).flatMap (fun k => (items.drop (k * n)).take n) = items.take (m * n) := by
  induction m with
  | zero => simp
  | succ m ih =>
    rw [List.range_succ, List.flatMap_append, ih, List.flatMap_singleton, ← List.take_add,
      ← Nat.succ_mul]

/-! ## one bucket -/

/-- the items at the positions `w`, `n + w`, `2 * n + w` and so on -/
def share (n w : Nat) (items : List α) : List α :=
  (List.range items.length).filterMap fun k => items[k * n + w]?

/-- the items of `bucket` lie `n` apart in `items`, from position `w` on -/
def IsDealt (n w : Nat) (items bucket : List α) : Prop := ∀ k, bucket[k]? = items[k * n + w]?

section

variable {n v w : Nat} {items bucket first second : List α}

theorem IsDealt.lt_length_iff (h : IsDealt n w items bucket) (k : Nat) :
    k < bucket.length ↔ k * n + w < items.length := by
  rw [← Nat.not_le, ← List.getElem?_eq_none_iff, h k, List.getElem?_eq_none_iff, Nat.not_le]

/-- among as many numbers as there are items are those of all rounds -/
theorem IsDealt.eq_share (h : IsDealt n w items bucket) (hn : 0 < n) :
    bucket = share n w items := by
  have hlength : bucket.length ≤ items.length := by
    by_contra hlong
    have hlast := (h.lt_length_iff items.length).mp (Nat.lt_of_not_le hlong)
    have hmul := Nat.le_mul_of_pos_right items.length hn
    omega
  have hitems : (fun k => items[k * n + w]?) = fun k => bucket[k]? := funext fun k => (h k).symm
  rw [share, hitems, filterMap_getElem?_range, List.take_of_length_le hlength]

theorem length_share (n w : Nat) (items : List α) :
    (share n w items).length =
      (List.range items.length).countP fun k => k * n + w < items.length := by
  rw [share, List.length_filterMap_eq_countP]
  exact List.countP_congr fun k _ => by simp

/-- a round that reaches a bucket reaches those before, and the round before it reaches all -/
theorem IsDealt.length_le (hfirst : IsDealt n v items first) (hsecond : IsDealt n w items second)
    (hvw : v ≤ w) (hw : w < n) :
    second.length ≤ first.length ∧ first.length ≤ second.length + 1 := by
  constructor
  · by_contra hlong
    have hreached := (hsecond.lt_length_iff first.length).mp (Nat.lt_of_not_le hlong)
    have hshort := mt (hfirst.lt_length_iff first.length).mpr (Nat.lt_irrefl _)
    omega
  · by_contra hlong
    have hreached := (hfirst.lt_length_iff (second.length + 1)).mp (Nat.lt_of_not_le hlong)
    have hshort := mt (hsecond.lt_length_iff second.length).mpr (Nat.lt_irrefl _)
    rw [Nat.succ_mul] at hreached
    omega

end

theorem isDealt_partition {items bucket : List α} {workers w : Nat}
    (h : (partition items workers)[w]? = some bucket) :
    IsDealt (bucketCount workers) w items bucket := getElem?_partition h

theorem lt_of_partition_getElem? {items bucket : List α} {workers w : Nat}
    (h : (partition items workers)[w]? = some bucket) : w < bucketCount workers := by
  rw [← length_partition items workers]
  exact (List.getElem?_eq_some_iff.mp h).1

/-! ## column by column -/

/-- what the buckets hold as number `k`, from the first bucket to the last -/
def column (k : Nat) (buckets : List (List α)) : List α :=
  buckets.filterMap fun bucket => bucket[k]?

/-- the buckets read column by column, as many columns as the longest has items -/
def byColumns (buckets : List (List α)) : List α :=
  (List.range ((buckets.map List.length).max?.getD 0)).flatMap fun k => column k buckets

/-- a column is a round -/
theorem column_partition (items : List α) (workers k : Nat) :
    column k (partition items workers) =
      (items.drop (k * bucketCount workers)).take (bucketCount workers) := by
  have hround : ∀ w ∈ List.range (bucketCount workers),
      (dealt (bucketCount workers) w 0 items)[k]? =
        (items.drop (k * bucketCount workers))[w]? := by
    intro w hw
    have hlt := List.mem_range.mp hw
    rw [getElem?_dealt items k hlt (by rw [Nat.zero_add, Nat.mod_eq_of_lt hlt]),
      List.getElem?_drop, Nat.add_comm]
  rw [column, partition_eq, List.filterMap_map]
  exact (List.filterMap_congr hround).trans (filterMap_getElem?_range _ _)

/-- **Read round by round, the buckets give the items back.** -/
theorem byColumns_partition (items : List α) (workers : Nat) :
    byColumns (partition items workers) = items := by
  have hrounds : items.length ≤
      ((partition items workers).map List.length).max?.getD 0 * bucketCount workers := by
    -- the first bucket has an item of every round
    have hfirst : 0 < (partition items workers).length :=
      length_partition items workers ▸ bucketCount_pos workers
    obtain ⟨bucket, hbucket⟩ : ∃ bucket, (partition items workers)[0]? = some bucket :=
      ⟨_, List.getElem?_eq_getElem hfirst⟩
    have hover := mt ((isDealt_partition hbucket).lt_length_iff bucket.length).mpr
      (Nat.lt_irrefl _)
    have hmax : bucket.length ≤ ((partition items workers).map List.length).max?.getD 0 :=
      List.le_max?_getD_of_mem (List.mem_map_of_mem (List.mem_of_getElem? hbucket))
    have hmul := Nat.mul_le_mul_right (bucketCount workers) hmax
    omega
  rw [byColumns, funext fun k => column_partition items workers k, flatMap_rounds,
    List.take_of_length_le hrounds]

/-! ## the closed form -/

/-- **Round robin in closed form.**  There are as many buckets as workers, at least one; bucket `w`
has the items at the positions `k * n + w`, in increasing order of `k`; the lengths of the buckets
never increase and differ by one at most; together they hold every item as often as the list, and
read column by column they are the list. -/
theorem partition_closedForm (items : List α) (workers : Nat) :
    (partition items workers).length = max workers 1 ∧
      (∀ w bucket, (partition items workers)[w]? = some bucket →
        bucket = share (max workers 1) w items ∧
          (∀ k, bucket[k]? = items[k * max workers 1 + w]?) ∧
          bucket.length =
            (List.range items.length).countP fun k => k * max workers 1 + w < items.length) ∧
      (∀ (v w : Nat) (first second : List α), v ≤ w → (partition items workers)[v]? = some first →
        (partition items workers)[w]? = some second →
        second.length ≤ first.length ∧ first.length ≤ second.length + 1) ∧
      (partition items workers).flatten.Perm items ∧
      byColumns (partition items workers) = items := by
  rw [← bucketCount_eq_max]
  refine ⟨length_partition items workers, fun w bucket hbucket => ?_, ?_,
    flatten_partition items workers, byColumns_partition items workers⟩
  · have hdealt := isDealt_partition hbucket
    have hshare := hdealt.eq_share (bucketCount_pos workers)
    refine ⟨hshare, hdealt, ?_⟩
    rw [hshare, length_share]
  · intro v w first second hvw hfirst hsecond
    exact (isDealt_partition hfirst).length_le (isDealt_partition hsecond) hvw
      (lt_of_partition_getElem? hsecond)

/-- seven items for three workers: the first one has an item more than the others -/
theorem partition_closedForm_seven :
    [1, 4] = share 3 1 [0, 1, 2, 3, 4, 5, 6] ∧
      [2, 5].length ≤ [0, 3, 6].length ∧ [0, 3, 6].length ≤ [2, 5].length + 1 ∧
      byColumns [[0, 3, 6], [1, 4], [2, 5]] = [0, 1, 2, 3, 4, 5, 6] := by
  have hdealt : partition [0, 1, 2, 3, 4, 5, 6] 3 = [[0, 3, 6], [1, 4], [2, 5]] := by decide
  obtain ⟨_, hbuckets, hlengths, _, hcolumns⟩ := partition_closedForm [0, 1, 2, 3, 4, 5, 6] 3
  rw [hdealt] at hbuckets hlengths hcolumns
  obtain ⟨hshorter, hlonger⟩ := hlengths 0 2 _ _ (by decide) rfl rfl
  exact ⟨(hbuckets 1 _ rfl).1, hshorter, hlonger, hcolumns⟩

end ShellWorkers
