import Mathlib.Data.List.Basic
import Mathlib.Data.Nat.ModEq
import ShellWorkers.Build

/-!
# Dealing round robin

`partition` as a closed form, and what follows from it for the queues of the workers.

* `dealt n w i items`      the items that bucket `w` of `n` gets, the first item having number `i`;
* `getElem?_dealt`         item `k` of that bucket is item `j + k * n` of the list;
* `partition_eq`           every bucket holds what it is dealt;
* `flatten_partition`      the buckets together hold every item as often as the list;
* `tasksOf_eq`             the queues are the buckets of the list of commands.
-/

namespace ShellWorkers

variable {α β : Type}

/-! ## one bucket -/

/-- the items whose numbers leave the remainder `w` modulo `n`, the first number being `i` -/
def dealt (n w : Nat) : Nat → List α → List α
  | _, [] => []
  | i, x :: items => if i % n = w then x :: dealt n w (i + 1) items else dealt n w (i + 1) items

theorem dealt_map (f : α → β) (n w i : Nat) (items : List α) :
    dealt n w i (items.map f) = (dealt n w i items).map f := by
  induction items generalizing i with
  | nil => rfl
  | cons x items ih =>
    rw [List.map_cons, dealt, dealt, ih]
    split <;> rfl

theorem mem_of_mem_dealt {n w i : Nat} {items : List α} {x : α} (h : x ∈ dealt n w i items) :
    x ∈ items := by
  induction items generalizing i with
  | nil => exact absurd h List.not_mem_nil
  | cons y items ih =>
    rw [dealt] at h
    split at h
    · rcases List.mem_cons.mp h with rfl | h
      · exact List.mem_cons_self
      · exact List.mem_cons_of_mem _ (ih h)
    · exact List.mem_cons_of_mem _ (ih h)

theorem add_mod_ne {i j n w : Nat} (hj : j + 1 < n) (hw : (i + (j + 1)) % n = w) : i % n ≠ w := by
  intro h
  have hmod : i + 0 ≡ i + (j + 1) [MOD n] := by
    show (i + 0) % n = (i + (j + 1)) % n
    rw [hw, Nat.add_zero, h]
  have hz : 0 % n = (j + 1) % n := Nat.ModEq.add_left_cancel' i hmod
  rw [Nat.zero_mod, Nat.mod_eq_of_lt hj] at hz
  omega

/-- The items of a bucket lie `n` apart, from the first one behind position `j`. -/
theorem getElem?_dealt {n w i j : Nat} (items : List α) (k : Nat) (hj : j < n)
    (hw : (i + j) % n = w) : (dealt n w i items)[k]? = items[j + k * n]? := by
  induction items generalizing i j k with
  | nil => rfl
  | cons x items ih =>
    rw [dealt]
    cases j with
    | succ j =>
      -- the first item goes elsewhere
      have hnext : (i + 1 + j) % n = w := by
        rw [← hw]
        congr 1
        omega
      rw [if_neg (add_mod_ne hj hw), ih k (Nat.lt_of_succ_lt hj) hnext,
        show j + 1 + k * n = (j + k * n) + 1 by omega, List.getElem?_cons_succ]
    | zero =>
      rw [if_pos (show i % n = w from hw)]
      cases k with
      | zero => rw [Nat.zero_mul, List.getElem?_cons_zero]; rfl
      | succ k =>
        -- the bucket gets nothing more before a whole round is over
        have hround : (i + 1 + (n - 1)) % n = w := by
          rw [show i + 1 + (n - 1) = i + n by omega, Nat.add_mod_right]
          exact hw
        rw [List.getElem?_cons_succ, ih k (by omega) hround, Nat.succ_mul,
          show 0 + (k * n + n) = (n - 1 + k * n) + 1 by omega, List.getElem?_cons_succ]

/-! ## all buckets -/

theorem getElem?_foldl_deal (items : List α) (i w : Nat) (buckets : List (List α)) :
    ((items.zipIdx i).foldl deal buckets)[w]? =
      buckets[w]?.map (· ++ dealt buckets.length w i items) := by
  induction items generalizing i buckets with
  | nil => cases h : buckets[w]? <;> simp [dealt, h]
  | cons x items ih =>
    rw [List.zipIdx_cons, List.foldl_cons, ih, length_deal, deal, List.getElem?_modify]
    cases buckets[w]? with
    | none => rfl
    | some bucket =>
      by_cases h : i % buckets.length = w
      · simp [dealt, h]
      · simp [dealt, h]

theorem partition_eq (items : List α) (workers : Nat) :
    partition items workers =
      (List.range (bucketCount workers)).map fun w => dealt (bucketCount workers) w 0 items := by
  apply List.ext_getElem?
  intro w
  rw [partition, getElem?_foldl_deal, List.length_replicate, List.getElem?_map]
  by_cases h : w < bucketCount workers
  · rw [List.getElem?_replicate, if_pos h, List.getElem?_range h]
    rfl
  · rw [List.getElem?_replicate, if_neg h, List.getElem?_eq_none (by simpa using h)]
    rfl

theorem partition_map (f : α → β) (items : List α) (workers : Nat) :
    partition (items.map f) workers = (partition items workers).map (List.map f) := by
  rw [partition_eq, partition_eq, List.map_map]
  exact List.map_congr_left fun w _ => dealt_map f _ w 0 items

theorem mem_of_mem_partition {items bucket : List α} {workers : Nat} {x : α}
    (hb : bucket ∈ partition items workers) (hx : x ∈ bucket) : x ∈ items := by
  rw [partition_eq, List.mem_map] at hb
  obtain ⟨w, _, rfl⟩ := hb
  exact mem_of_mem_dealt hx

/-- bucket `w` holds, as number `k`, the item `k * W + w` of the list, `W` being the number of
buckets -/
theorem getElem?_partition {items bucket : List α} {workers w : Nat}
    (h : (partition items workers)[w]? = some bucket) (k : Nat) :
    bucket[k]? = items[k * bucketCount workers + w]? := by
  rw [partition_eq, List.getElem?_map, Option.map_eq_some_iff] at h
  obtain ⟨v, hv, rfl⟩ := h
  obtain ⟨hlt, hvw⟩ := List.getElem?_eq_some_iff.mp hv
  rw [List.length_range] at hlt
  rw [List.getElem_range] at hvw
  rw [← hvw, getElem?_dealt items k hlt (by rw [Nat.zero_add, Nat.mod_eq_of_lt hlt]),
    Nat.add_comm]

/-! ## nothing is lost -/

theorem flatten_modify_append (buckets : List (List α)) (i : Nat) (x : α)
    (h : i < buckets.length) :
    (buckets.modify i (· ++ [x])).flatten.Perm (x :: buckets.flatten) := by
  induction buckets generalizing i with
  | nil => exact absurd h (Nat.not_lt_zero i)
  | cons bucket buckets ih =>
    cases i with
    | zero =>
      rw [List.modify_zero_cons, List.flatten_cons, List.flatten_cons, List.append_assoc]
      exact List.perm_middle
    | succ i =>
      rw [List.modify_succ_cons, List.flatten_cons, List.flatten_cons]
      have step := (ih i (Nat.lt_of_succ_lt_succ h)).append_left bucket
      exact step.trans List.perm_middle

theorem flatten_foldl_deal (items : List (α × Nat)) (buckets : List (List α))
    (h : 0 < buckets.length) :
    (items.foldl deal buckets).flatten.Perm (items.map Prod.fst ++ buckets.flatten) := by
  induction items generalizing buckets with
  | nil => exact List.Perm.refl _
  | cons item items ih =>
    rw [List.foldl_cons, List.map_cons, List.cons_append]
    have rest := ih (deal buckets item) (by rw [length_deal]; exact h)
    have step := flatten_modify_append buckets (item.2 % buckets.length) item.1 (Nat.mod_lt _ h)
    exact (rest.trans (step.append_left _)).trans List.perm_middle

/-- the buckets together hold every item as often as the list does -/
theorem flatten_partition (items : List α) (workers : Nat) :
    (partition items workers).flatten.Perm items := by
  have h := flatten_foldl_deal items.zipIdx (List.replicate (bucketCount workers) [])
    (by rw [List.length_replicate]; exact bucketCount_pos workers)
  have hempty : (List.replicate (bucketCount workers) ([] : List α)).flatten = [] := by simp
  rw [hempty, List.append_nil, List.zipIdx_map_fst] at h
  exact h

/-! ## the queues -/

theorem mapM_eq_ok {ε : Type} {f : α → Except ε β} {g : α → β} {items : List α}
    (h : ∀ x ∈ items, f x = .ok (g x)) : items.mapM f = .ok (items.map g) := by
  induction items with
  | nil => rfl
  | cons x items ih =>
    rw [List.mapM_cons, h x List.mem_cons_self,
      ih fun y hy => h y (List.mem_cons_of_mem _ hy)]
    rfl

theorem exists_mapM_eq_ok {ε : Type} {f : α → Except ε β} {items : List α}
    (h : ∀ x ∈ items, ∃ y, f x = .ok y) : ∃ ys, items.mapM f = .ok ys := by
  induction items with
  | nil => exact ⟨[], rfl⟩
  | cons x items ih =>
    obtain ⟨⟨y, hy⟩, hrest⟩ := List.forall_mem_cons.mp h
    obtain ⟨ys, hys⟩ := ih hrest
    exact ⟨y :: ys, by rw [List.mapM_cons, hy, hys]; rfl⟩

/-- a traversal fails with the failure of an item -/
theorem exists_of_mapM_eq_error {ε : Type} {f : α → Except ε β} {e : ε} {items : List α}
    (h : items.mapM f = .error e) : ∃ x ∈ items, f x = .error e := by
  induction items with
  | nil => exact nomatch h
  | cons x items ih =>
    rw [List.mapM_cons] at h
    cases hx : f x with
    | error e' =>
      rw [hx] at h
      obtain rfl := Except.error.inj h
      exact ⟨x, List.mem_cons_self, hx⟩
    | ok y =>
      rw [hx] at h
      cases hrest : items.mapM f with
      | error e' =>
        rw [hrest] at h
        obtain rfl := Except.error.inj h
        obtain ⟨z, hz, he⟩ := ih hrest
        exact ⟨z, List.mem_cons_of_mem _ hz, he⟩
      | ok ys =>
        rw [hrest] at h
        exact nomatch h

/-- a function that answers for every item is one without failures on them -/
theorem exists_of_mapM_eq_ok [Inhabited β] {ε : Type} {f : α → Except ε β} {items : List α}
    {results : List β} (h : items.mapM f = .ok results) :
    ∃ g : α → β, (∀ x ∈ items, f x = .ok (g x)) ∧ results = items.map g := by
  have hanswers : ∀ x ∈ items, ∃ y, f x = .ok y := by
    induction items generalizing results with
    | nil => exact fun _ hx => absurd hx List.not_mem_nil
    | cons x items ih =>
      rw [List.mapM_cons] at h
      cases hx : f x with
      | error e => rw [hx] at h; exact nomatch h
      | ok y =>
        rw [hx] at h
        cases hrest : items.mapM f with
        | error e => rw [hrest] at h; exact nomatch h
        | ok ys => exact List.forall_mem_cons.mpr ⟨⟨y, hx⟩, ih hrest⟩
  let g : α → β := fun x => (f x).toOption.getD default
  have hg : ∀ x ∈ items, f x = .ok (g x) := by
    intro x hx
    obtain ⟨y, hy⟩ := hanswers x hx
    show f x = .ok ((f x).toOption.getD default)
    rw [hy]
    rfl
  exact ⟨g, hg, Except.ok.inj (h.symm.trans (mapM_eq_ok hg))⟩

/-- the tasks of the workers -/
def dealtTasks (commands : List String) (workers : Nat) : List Task :=
  (partition commands workers).zipIdx.map fun bucket => ⟨bucket.2, bucket.1⟩

theorem length_dealtTasks (commands : List String) (workers : Nat) :
    (dealtTasks commands workers).length = bucketCount workers := by
  rw [dealtTasks, List.length_map, List.length_zipIdx, length_partition]

theorem dealtTasks_getElem? {commands : List String} {workers w : Nat} {task : Task}
    (h : (dealtTasks commands workers)[w]? = some task) :
    task.worker = w ∧ w < bucketCount workers ∧
      ∀ k, task.commands[k]? = commands[k * bucketCount workers + w]? := by
  have hlt : w < bucketCount workers := by
    rw [← length_dealtTasks commands workers]
    exact (List.getElem?_eq_some_iff.mp h).1
  rw [dealtTasks, List.getElem?_map, List.getElem?_zipIdx, Option.map_map,
    Option.map_eq_some_iff] at h
  obtain ⟨bucket, hbucket, rfl⟩ := h
  exact ⟨Nat.zero_add w, hlt, getElem?_partition hbucket⟩

/-- the queues of the workers are the buckets of the list of commands -/
theorem tasksOf_eq {r : Recipe} {commands : List String}
    (h : r.sources.mapM r.objectCommand = .ok commands) (workers : Nat) :
    tasksOf r workers = .ok (dealtTasks commands workers) := by
  obtain ⟨g, hg, rfl⟩ := exists_of_mapM_eq_ok h
  have htask : ∀ bucket ∈ (partition r.sources workers).zipIdx,
      taskOf r bucket = .ok ⟨bucket.2, bucket.1.map g⟩ := by
    intro bucket hb
    have hmem : bucket.1 ∈ partition r.sources workers := List.fst_mem_of_mem_zipIdx hb
    rw [taskOf, mapM_eq_ok fun s hs => hg s (mem_of_mem_partition hmem hs)]
    rfl
  rw [tasksOf, mapM_eq_ok htask, dealtTasks, partition_map, List.zipIdx_map, List.map_map]
  rfl

end ShellWorkers
