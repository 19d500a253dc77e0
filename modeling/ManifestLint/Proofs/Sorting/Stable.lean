import Mathlib.Data.List.Sort

/-!
# Lists sorted by rank

The elements of a list have ranks, and those of one rank are told apart by their places
only.  Two lists are **alike** if they have the same elements of each rank in the same
order.  A list is alike to one list only whose ranks go up, so that a stable sort is
determined by the ranks; it is the merge sort of the library.

* `eq_of_alike`: lists that are alike and go up are the same.
* `alike_merge`, `alike_mergeSort`: merging and sorting by merges keep lists alike.
* `reverse_merge`, `reverse_mergeSort`: the same from the other end.
-/

namespace ManifestLint.Sorting

variable {α ρ : Type} [LinearOrder ρ] (rank : α → ρ)

/-- The ranks of the elements go up. -/
def Rising (list : List α) : Prop := list.Pairwise fun x y => rank x ≤ rank y

/-- The lists have the same elements of each rank, in the same order. -/
def Alike (xs ys : List α) : Prop := ∀ r, xs.filter (rank · = r) = ys.filter (rank · = r)

/-- Whether an element may stand before another one, by their ranks. -/
def mayPrecede (x y : α) : Bool := rank x ≤ rank y

variable {rank} {x : α} {xs ys zs ws : List α}

/-! ## Alike lists -/

namespace Alike

theorem refl (xs : List α) : Alike rank xs xs := fun _ => rfl

theorem symm (h : Alike rank xs ys) : Alike rank ys xs := fun r => (h r).symm

theorem trans (h : Alike rank xs ys) (hnext : Alike rank ys zs) : Alike rank xs zs :=
  fun r => (h r).trans (hnext r)

theorem append (h : Alike rank xs ys) (hmore : Alike rank zs ws) :
    Alike rank (xs ++ zs) (ys ++ ws) := by
  intro r
  rw [List.filter_append, List.filter_append, h r, hmore r]

theorem append_right (h : Alike rank xs ys) (zs : List α) : Alike rank (xs ++ zs) (ys ++ zs) :=
  h.append (refl zs)

theorem append_left (zs : List α) (h : Alike rank xs ys) : Alike rank (zs ++ xs) (zs ++ ys) :=
  (refl zs).append h

theorem reverse (h : Alike rank xs ys) : Alike rank xs.reverse ys.reverse := by
  intro r
  rw [List.filter_reverse, List.filter_reverse, h r]

theorem filter (h : Alike rank xs ys) (p : α → Bool) :
    Alike rank (xs.filter p) (ys.filter p) := by
  intro r
  rw [List.filter_comm, h r, List.filter_comm]

/-- Lists without a common rank may change places. -/
theorem swap (h : ∀ x ∈ xs, ∀ y ∈ ys, rank x ≠ rank y) : Alike rank (xs ++ ys) (ys ++ xs) := by
  intro r
  rw [List.filter_append, List.filter_append]
  by_cases hnone : xs.filter (rank · = r) = []
  · rw [hnone, List.nil_append, List.append_nil]
  · obtain ⟨x, hx⟩ := List.exists_mem_of_ne_nil _ hnone
    obtain ⟨hmem, hrank⟩ := List.mem_filter.mp hx
    have hother : ys.filter (rank · = r) = [] := by
      refine List.filter_eq_nil_iff.mpr fun y hy hsame => h x hmem y hy ?_
      exact (of_decide_eq_true hrank).trans (of_decide_eq_true hsame).symm
    rw [hother, List.nil_append, List.append_nil]

theorem mem_iff (h : Alike rank xs ys) : x ∈ xs ↔ x ∈ ys := by
  have hfilter : x ∈ xs.filter (rank · = rank x) ↔ x ∈ ys.filter (rank · = rank x) := by
    rw [h (rank x)]
  simpa using hfilter

theorem subset (h : Alike rank xs ys) : xs ⊆ ys := fun _ => h.mem_iff.mp

/-- An element may be left out in front of both. -/
theorem of_cons (h : Alike rank (x :: xs) (x :: ys)) : Alike rank xs ys := by
  intro r
  have hboth := h r
  rw [List.filter_cons, List.filter_cons] at hboth
  split at hboth
  · exact (List.cons.inj hboth).2
  · exact hboth

end Alike

/-- **Stability.**  Only one list goes up and is alike to a given one. -/
theorem eq_of_alike (hxs : Rising rank xs) (hys : Rising rank ys) (h : Alike rank xs ys) :
    xs = ys := by
  induction xs generalizing ys with
  | nil =>
      refine (List.eq_nil_iff_forall_not_mem.mpr fun y hy => ?_).symm
      exact List.not_mem_nil (h.mem_iff.mpr hy)
  | cons x xs ih =>
      cases ys with
      | nil => exact absurd (h.mem_iff.mp List.mem_cons_self) List.not_mem_nil
      | cons y ys =>
          obtain ⟨hx, hrest⟩ := List.pairwise_cons.mp hxs
          obtain ⟨hy, hothers⟩ := List.pairwise_cons.mp hys
          have hlower : rank x ≤ rank y := by
            rcases List.mem_cons.mp (h.mem_iff.mpr (List.mem_cons_self (a := y))) with rfl | hmem
            · exact le_rfl
            · exact hx y hmem
          have hupper : rank y ≤ rank x := by
            rcases List.mem_cons.mp (h.mem_iff.mp (List.mem_cons_self (a := x))) with rfl | hmem
            · exact le_rfl
            · exact hy x hmem
          have hsame : rank y = rank x := le_antisymm hupper hlower
          obtain rfl : x = y := by
            have hfirst := h (rank x)
            rw [List.filter_cons_of_pos (by simp), List.filter_cons_of_pos (by simpa)] at hfirst
            exact (List.cons.inj hfirst).1
          rw [ih hrest hothers h.of_cons]

/-! ## Merging and sorting -/

theorem mayPrecede_trans (x y z : α) (hxy : mayPrecede rank x y = true)
    (hyz : mayPrecede rank y z = true) : mayPrecede rank x z = true :=
  decide_eq_true ((of_decide_eq_true hxy).trans (of_decide_eq_true hyz))

theorem mayPrecede_total (x y : α) : (mayPrecede rank x y || mayPrecede rank y x) = true := by
  simpa [mayPrecede] using le_total (rank x) (rank y)

theorem rising_iff : Rising rank xs ↔ xs.Pairwise fun x y => mayPrecede rank x y = true := by
  simp [Rising, mayPrecede]

theorem rising_merge (hxs : Rising rank xs) (hys : Rising rank ys) :
    Rising rank (xs.merge ys (mayPrecede rank)) :=
  rising_iff.mpr (List.pairwise_merge mayPrecede_trans mayPrecede_total _ _
    (rising_iff.mp hxs) (rising_iff.mp hys))

/-- Of equals the elements of the first run come first. -/
theorem alike_merge (hxs : Rising rank xs) (ys : List α) :
    Alike rank (xs.merge ys (mayPrecede rank)) (xs ++ ys) := by
  induction xs generalizing ys with
  | nil =>
      rw [List.nil_merge]
      exact Alike.refl ys
  | cons x xs ih =>
      induction ys with
      | nil =>
          rw [List.merge_right, List.append_nil]
          exact Alike.refl _
      | cons y ys ihys =>
          obtain ⟨hx, hrest⟩ := List.pairwise_cons.mp hxs
          by_cases hle : mayPrecede rank x y = true
          · rw [List.cons_merge_cons_pos _ _ _ hle]
            exact (ih hrest (y :: ys)).append_left [x]
          · rw [List.cons_merge_cons_neg _ _ _ hle]
            have hlt : rank y < rank x := by simpa [mayPrecede] using hle
            have hapart : ∀ z ∈ [y], ∀ w ∈ x :: xs, rank z ≠ rank w := by
              intro z hz w hw
              obtain rfl := List.mem_singleton.mp hz
              rcases List.mem_cons.mp hw with rfl | hmem
              · exact hlt.ne
              · exact (hlt.trans_le (hx w hmem)).ne
            have hswap := (Alike.swap hapart).append_right ys
            rw [List.append_assoc, List.append_assoc] at hswap
            exact (ihys.append_left [y]).trans hswap

theorem rising_mergeSort (list : List α) : Rising rank (list.mergeSort (mayPrecede rank)) :=
  rising_iff.mpr (List.pairwise_mergeSort mayPrecede_trans mayPrecede_total list)

theorem alike_mergeSort (list : List α) :
    Alike rank (list.mergeSort (mayPrecede rank)) list := by
  intro r
  have hlevel : (list.filter (rank · = r)).Pairwise fun x y => mayPrecede rank x y = true := by
    refine List.pairwise_of_forall_mem_list fun x hx y hy => ?_
    have hxr : rank x = r := of_decide_eq_true (List.mem_filter.mp hx).2
    have hyr : rank y = r := of_decide_eq_true (List.mem_filter.mp hy).2
    simp [mayPrecede, hxr, hyr]
  have hsublist := (List.sublist_mergeSort mayPrecede_trans mayPrecede_total hlevel
    List.filter_sublist).filter (rank · = r)
  rw [List.filter_filter] at hsublist
  have hlength : ((list.mergeSort (mayPrecede rank)).filter (rank · = r)).length =
      (list.filter (rank · = r)).length :=
    ((List.mergeSort_perm list _).filter _).length_eq
  exact (hsublist.eq_of_length (by simpa using hlength.symm)).symm.trans (by simp)

/-- A list that goes up and is alike to another one is the other one sorted. -/
theorem eq_mergeSort (hxs : Rising rank xs) (h : Alike rank xs ys) :
    xs = ys.mergeSort (mayPrecede rank) :=
  eq_of_alike hxs (rising_mergeSort ys) (h.trans (alike_mergeSort ys).symm)

/-- Merging in front of elements that come after all others. -/
theorem merge_append_of_le (hle : ∀ x ∈ xs, ∀ z ∈ zs, rank x ≤ rank z) :
    xs.merge (ys ++ zs) (mayPrecede rank) = xs.merge ys (mayPrecede rank) ++ zs := by
  induction xs generalizing ys with
  | nil => rw [List.nil_merge, List.nil_merge]
  | cons x xs ih =>
      obtain ⟨-, hrest⟩ := List.forall_mem_cons.mp hle
      induction ys with
      | nil =>
          rw [List.nil_append, List.merge_right]
          exact List.merge_of_le fun a b ha hb => decide_eq_true (hle a ha b hb)
      | cons y ys ihys =>
          rw [List.cons_append, List.cons_merge_cons, List.cons_merge_cons, ihys,
            ← List.cons_append, ih hrest]
          split <;> rfl

/-- What is found in a list that goes up has the lowest rank of all that could be found. -/
theorem Rising.le_of_find?_eq_some {p : α → Bool} (hxs : Rising rank xs)
    (hfound : xs.find? p = some x) : ∀ y ∈ xs, p y = true → rank x ≤ rank y := by
  obtain ⟨-, before, after, rfl, hbefore⟩ := List.find?_eq_some_iff_append.mp hfound
  intro y hy hholds
  rcases List.mem_append.mp hy with hearlier | hlater
  · have hnone := hbefore y hearlier
    rw [hholds] at hnone
    cases hnone
  · rcases List.mem_cons.mp hlater with rfl | hafter
    · exact le_rfl
    · exact (List.pairwise_cons.mp (List.pairwise_append.mp hxs).2.1).1 y hafter

/-! ## From the other end -/

theorem rising_toDual_iff : Rising (fun x => OrderDual.toDual (rank x)) xs ↔
    Rising rank xs.reverse := List.pairwise_reverse.symm

/-- Merging from the ends is merging. -/
theorem reverse_merge (hxs : Rising rank xs) (hys : Rising rank ys) :
    (ys.reverse.merge xs.reverse (mayPrecede fun x => OrderDual.toDual (rank x))).reverse =
      xs.merge ys (mayPrecede rank) := by
  have hysDown : Rising (fun x => OrderDual.toDual (rank x)) ys.reverse :=
    rising_toDual_iff.mpr (by rwa [List.reverse_reverse])
  have hxsDown : Rising (fun x => OrderDual.toDual (rank x)) xs.reverse :=
    rising_toDual_iff.mpr (by rwa [List.reverse_reverse])
  refine eq_of_alike (rising_toDual_iff.mp (rising_merge hysDown hxsDown)) (rising_merge hxs hys) ?_
  have hdown : Alike rank _ (ys.reverse ++ xs.reverse) := alike_merge hysDown xs.reverse
  have hback := hdown.reverse
  rw [← List.reverse_append, List.reverse_reverse] at hback
  exact hback.trans (alike_merge hxs ys).symm

/-- Sorting from the end is sorting downwards. -/
theorem reverse_mergeSort (xs : List α) :
    (xs.reverse.mergeSort (mayPrecede rank)).reverse =
      xs.mergeSort (mayPrecede fun x => OrderDual.toDual (rank x)) := by
  refine eq_mergeSort (rising_toDual_iff.mpr ?_) ?_
  · rw [List.reverse_reverse]
    exact rising_mergeSort _
  · have hsorted : Alike rank (xs.reverse.mergeSort (mayPrecede rank)) xs.reverse :=
      alike_mergeSort xs.reverse
    have hback := hsorted.reverse
    rw [List.reverse_reverse] at hback
    exact hback

end ManifestLint.Sorting
