import ManifestLint.Proofs.Sorting.Merged

/-!
# What a sort gives

If questions are answered by ranks, sorting by runs gives what sorting by merges gives: the ranks
go up, and those elements that have one rank stay in their order.  Each step from the first run to
the last merge keeps what lies on the stack of runs, together with the rest of the list, alike to
the list.

* `sortBy_eq`, `sortDownBy_eq`: the results.
-/

namespace ManifestLint.Sorting

variable {α ρ ε : Type} [LinearOrder ρ] {before : α → α → Except ε Bool} {rank : α → ρ}
  {list sorted more : List α} {x last : α}

/-! ## Runs -/

/-- An element is put behind those that may precede it. -/
theorem insertBy_yields (h : Ranked before rank (x :: sorted)) (hsorted : Rising rank sorted) :
    Yields (fun result => result = sorted.merge [x] (mayPrecede rank))
      (insertBy before x sorted) := by
  have hdecides : Decides (before x) (fun y => decide (rank x < rank y)) sorted :=
    fun y hy => h x List.mem_cons_self y (List.mem_cons_of_mem _ hy)
  have hparted := hsorted.parted_le (rank x)
  have habove := hparted.dropWhile
  rw [insertBy, bisect_eq hdecides.fails hparted, mayPrecede_eq, merge_parts_left]
  change _ ++ x :: _ = _
  rw [parts]
  cases hupper : sorted.dropWhile (fun y => !decide (rank x < rank y)) with
  | nil => rw [List.nil_merge]
  | cons y rest =>
      rw [List.cons_merge_cons_neg _ _ _ (by simp [habove y (hupper ▸ List.mem_cons_self)]),
        List.merge_right]

theorem foldlM_insertBy_yields (h : Ranked before rank (sorted ++ more))
    (hsorted : Rising rank sorted) :
    Yields (fun result => Rising rank result ∧ Alike rank result (sorted ++ more))
      (more.foldlM (fun sorted x => insertBy before x sorted) sorted) := by
  induction more generalizing sorted with
  | nil => exact EndsIn.pure ⟨hsorted, by rw [List.append_nil]; exact Alike.refl _⟩
  | cons x rest ih =>
      have hinsert : Ranked before rank (x :: sorted) := h.subset fun y hy => by
        rcases List.mem_cons.mp hy with rfl | hold
        · simp
        · simp [hold]
      refine (insertBy_yields hinsert hsorted).bind fun next hnext => ?_
      have hrising : Rising rank next := hnext ▸ rising_merge hsorted (List.pairwise_singleton _ _)
      have hall : Alike rank (next ++ rest) (sorted ++ x :: rest) := by
        have hmerge := (alike_merge hsorted [x]).append_right rest
        rwa [← hnext, List.append_assoc] at hmerge
      exact (ih (h.subset hall.subset) hrising).mono fun result hresult =>
        ⟨hresult.1, hresult.2.trans hall⟩

/-- A run goes on as long as each element follows the one before it. -/
theorem takeRun_yields {follows : α → α → Except ε Bool} {p : α → α → Bool}
    (h : ∀ a ∈ last :: list, ∀ b ∈ last :: list, follows a b = .ok (p a b)) :
    Yields (fun split => split.1 ++ split.2 = list ∧
        (last :: split.1).IsChain fun a b => p a b = true) (takeRun follows last list) := by
  induction list generalizing last with
  | nil => exact EndsIn.pure ⟨rfl, .singleton _⟩
  | cons x rest ih =>
      rw [takeRun, h last (by simp) x (by simp)]
      cases hfollows : p last x with
      | false => exact ⟨rfl, .singleton _⟩
      | true =>
          have hrest := ih fun a ha b hb =>
            h a (List.mem_cons_of_mem _ ha) b (List.mem_cons_of_mem _ hb)
          refine hrest.bind fun split hsplit => EndsIn.pure ?_
          exact ⟨congrArg (x :: ·) hsplit.1, List.isChain_cons_cons.mpr ⟨hfollows, hsplit.2⟩⟩

/-- What goes strictly down may be turned round. -/
theorem alike_reverse {xs : List α} (h : xs.Pairwise fun a b => rank b < rank a) :
    Alike rank xs.reverse xs := by
  induction xs with
  | nil => exact Alike.refl _
  | cons x xs ih =>
      obtain ⟨hx, hrest⟩ := List.pairwise_cons.mp h
      have hswap : Alike rank (xs ++ [x]) ([x] ++ xs) := Alike.swap fun y hy z hz => by
        rw [List.mem_singleton.mp hz]
        exact (hx y hy).ne
      rw [List.reverse_cons]
      exact ((ih hrest).append_right [x]).trans hswap

/-- The first run goes up, and with the rest behind it is alike to the list. -/
theorem firstRun_yields (h : Ranked before rank list) :
    Yields (fun split => Rising rank split.1 ∧ Alike rank (split.1 ++ split.2) list ∧
      split.2.length ≤ list.length - 1) (firstRun before list) := by
  unfold firstRun
  split
  · next x y rest =>
      have hrest : Ranked before rank (y :: rest) := h.subset (List.subset_cons_self ..)
      rw [h y (by simp) x (by simp)]
      by_cases hdown : rank y < rank x
      · rw [decide_eq_true hdown]
        have hfollows : ∀ a ∈ y :: rest, ∀ b ∈ y :: rest,
            before b a = .ok (decide (rank b < rank a)) := fun a ha b hb => hrest b hb a ha
        refine (takeRun_yields hfollows).bind fun split hsplit => EndsIn.pure ?_
        obtain ⟨hall, hchain⟩ := hsplit
        simp only [decide_eq_true_eq] at hchain
        have hstrict : (x :: y :: split.1).Pairwise fun a b => rank b < rank a :=
          List.IsChain.pairwise (List.isChain_cons_cons.mpr ⟨hdown, hchain⟩)
        refine ⟨?_, ?_, ?_⟩
        · exact List.pairwise_reverse.mpr (hstrict.imp le_of_lt)
        · rw [← hall]
          exact (alike_reverse hstrict).append_right split.2
        · rw [← hall]
          simp only [List.length_cons, List.length_append]
          omega
      · rw [decide_eq_false hdown]
        have hfollows : ∀ a ∈ y :: rest, ∀ b ∈ y :: rest,
            (before b a).map (!·) = .ok (!decide (rank b < rank a)) := by
          intro a ha b hb
          rw [hrest b hb a ha]
          rfl
        refine (takeRun_yields hfollows).bind fun split hsplit => EndsIn.pure ?_
        obtain ⟨hall, hchain⟩ := hsplit
        simp only [Bool.not_eq_true', decide_eq_false_iff_not, not_lt] at hchain
        have hrising : Rising rank (x :: y :: split.1) :=
          List.IsChain.pairwise (List.isChain_cons_cons.mpr ⟨not_lt.mp hdown, hchain⟩)
        refine ⟨hrising, ?_, ?_⟩
        · rw [← hall]
          exact Alike.refl _
        · rw [← hall]
          simp only [List.length_cons, List.length_append]
          omega
  · next hshort =>
      refine ⟨?_, ?_, Nat.zero_le _⟩
      · match list, hshort with
        | [], _ => exact List.Pairwise.nil
        | [x], _ => exact List.pairwise_singleton _ _
        | x :: y :: rest, hshort => exact absurd rfl (hshort x y rest)
      · rw [List.append_nil]
        exact Alike.refl _

theorem filledRun_yields (h : Ranked before rank list) (least : Nat) :
    Yields (fun split => Rising rank split.1 ∧ Alike rank (split.1 ++ split.2) list ∧
      split.2.length ≤ list.length - 1) (filledRun before least list) := by
  refine (firstRun_yields h).bind fun split hsplit => ?_
  obtain ⟨run, others⟩ := split
  obtain ⟨hrising, halike, hlength⟩ := hsplit
  dsimp only at hrising halike hlength ⊢
  have hparts : run ++ others = run ++ others.take (least - run.length) ++
      others.drop (least - run.length) := by
    rw [List.append_assoc, List.take_append_drop]
  have hfill : Ranked before rank (run ++ others.take (least - run.length)) := by
    refine h.subset fun x hx => halike.subset ?_
    rw [hparts]
    exact List.mem_append_left _ hx
  refine (foldlM_insertBy_yields hfill hrising).bind fun filled hfilled => EndsIn.pure ?_
  refine ⟨hfilled.1, (hfilled.2.append_right _).trans (hparts ▸ halike), ?_⟩
  exact (List.drop_sublist ..).length_le.trans hlength

/-! ## The stack of runs -/

/-- The elements of runs on a stack, the uppermost of which comes first. -/
def stacked (runs : List (List α)) : List α := runs.reverse.flatten

theorem stacked_cons (run : List α) (runs : List (List α)) :
    stacked (run :: runs) = stacked runs ++ run := by
  simp [stacked]

/-- All runs go up, and what is on the stack is alike to a list. -/
structure Stacks (rank : α → ρ) (list : List α) (runs : List (List α)) : Prop where
  rising : ∀ run ∈ runs, Rising rank run
  alike : Alike rank (stacked runs) list

/-- Two neighbours on the stack, merged, take their place. -/
theorem Stacks.merge {above runs : List (List α)} {upper lower : List α}
    (h : Stacks rank list (above ++ upper :: lower :: runs)) :
    Stacks rank list (above ++ lower.merge upper (mayPrecede rank) :: runs) := by
  have hlower : Rising rank lower := h.rising lower (by simp)
  have hupper : Rising rank upper := h.rising upper (by simp)
  constructor
  · intro run hrun
    rcases List.mem_append.mp hrun with habove | hrest
    · exact h.rising run (List.mem_append_left _ habove)
    · rcases List.mem_cons.mp hrest with rfl | hold
      · exact rising_merge hlower hupper
      · exact h.rising run (by simp [hold])
  · refine Alike.trans ?_ h.alike
    have hmerge := ((alike_merge hlower upper).append_left (stacked runs)).append_right
      (stacked above)
    simpa [stacked] using hmerge

theorem Stacks.ranked {above runs : List (List α)} {upper lower : List α}
    (h : Stacks rank list (above ++ upper :: lower :: runs)) (hranked : Ranked before rank list) :
    Ranked before rank (lower ++ upper) := by
  refine hranked.subset fun x hx => h.alike.subset ?_
  rcases List.mem_append.mp hx with hlower | hupper
  · simp [stacked, hlower]
  · simp [stacked, hupper]

/-- The runs of a stack, the uppermost one first. -/
def stackRuns (top : Run α) (runs : List (Run α)) : List (List α) := (top :: runs).map (·.items)

theorem collapse_yields (hranked : Ranked before rank list) (limit threshold : Nat) {top : Run α}
    {runs : List (Run α)} (h : Stacks rank list (stackRuns top runs)) :
    Yields (fun collapsed => Stacks rank list (stackRuns collapsed.2.1 collapsed.2.2))
      (collapse before limit threshold top runs) := by
  induction runs generalizing top threshold with
  | nil => exact EndsIn.pure h
  | cons below rest ih =>
      unfold collapse
      split
      · have hstack : Stacks rank list ([] ++ top.items :: below.items :: rest.map (·.items)) := h
        have hruns := mergeRuns_yields (hstack.ranked hranked) (h.rising _ (by simp [stackRuns]))
          (h.rising _ (by simp [stackRuns])) threshold
        refine hruns.bind fun merged hmerged => ih _ ?_
        have hnext := hstack.merge
        rw [← hmerged] at hnext
        exact hnext
      · exact EndsIn.pure h

theorem collapseAll_yields (hranked : Ranked before rank list) {runs : List (List α)}
    (h : Stacks rank list runs) (threshold : Nat) :
    Yields (fun sorted => Rising rank sorted ∧ Alike rank sorted list)
      (collapseAll before threshold runs) := by
  induction hlength : runs.length using Nat.strongRecOn generalizing runs threshold with
  | ind length ih =>
      match runs with
      | [] =>
          rw [collapseAll]
          exact EndsIn.pure ⟨List.Pairwise.nil, h.alike⟩
      | [run] =>
          rw [collapseAll]
          exact EndsIn.pure ⟨h.rising run (by simp), by simpa [stacked] using h.alike⟩
      | [top, below] =>
          rw [collapseAll]
          have hstack : Stacks rank list ([] ++ top :: below :: []) := h
          have hruns := mergeRuns_yields (hstack.ranked hranked) (h.rising below (by simp))
            (h.rising top (by simp)) threshold
          refine hruns.map fun merged hmerged => ?_
          have hnext := hstack.merge
          rw [← hmerged] at hnext
          exact ⟨hnext.rising _ (by simp), by simpa [stacked] using hnext.alike⟩
      | top :: middle :: below :: rest =>
          rw [collapseAll]
          split
          · have hstack : Stacks rank list ([top] ++ middle :: below :: rest) := h
            have hruns := mergeRuns_yields (hstack.ranked hranked) (h.rising below (by simp))
              (h.rising middle (by simp)) threshold
            refine hruns.bind fun merged hmerged => ?_
            have hnext := hstack.merge
            rw [← hmerged] at hnext
            exact ih _ (by rw [← hlength]; simp) hnext _ rfl
          · have hstack : Stacks rank list ([] ++ top :: middle :: below :: rest) := h
            have hruns := mergeRuns_yields (hstack.ranked hranked) (h.rising middle (by simp))
              (h.rising top (by simp)) threshold
            refine hruns.bind fun merged hmerged => ?_
            have hnext := hstack.merge
            rw [← hmerged] at hnext
            exact ih _ (by rw [← hlength]; simp) hnext _ rfl

/-! ## Sorting -/

/-- Runs are cut off the rest of the list as long as there is one. -/
theorem sortRuns_yields (hranked : Ranked before rank list) (total steps threshold : Nat)
    {runs : List (Run α)} {rest : List α} (hsteps : rest.length ≤ steps)
    (hrising : ∀ run ∈ runs.map (·.items), Rising rank run)
    (halike : Alike rank (stacked (runs.map (·.items)) ++ rest) list) :
    Yields (fun sorted => Rising rank sorted ∧ Alike rank sorted list)
      (sortRuns before total steps threshold runs rest) := by
  induction steps generalizing threshold runs rest with
  | zero =>
      obtain rfl : rest = [] := List.eq_nil_of_length_eq_zero (Nat.le_zero.mp hsteps)
      refine collapseAll_yields hranked ⟨?_, ?_⟩ threshold
      · exact List.forall_mem_cons.mpr ⟨List.Pairwise.nil, hrising⟩
      · rwa [stacked_cons]
  | succ steps ih =>
      unfold sortRuns
      split
      · next hempty =>
          rw [List.isEmpty_iff.mp hempty, List.append_nil] at halike
          exact collapseAll_yields hranked ⟨hrising, halike⟩ threshold
      · have hrest : Ranked before rank rest :=
          hranked.subset fun x hx => halike.subset (List.mem_append_right _ hx)
        have hstack : Ranked before rank (stacked (runs.map (·.items))) :=
          hranked.subset fun x hx => halike.subset (List.mem_append_left _ hx)
        refine (filledRun_yields hrest _).bind fun split hsplit => ?_
        obtain ⟨items, left⟩ := split
        obtain ⟨hitems, hleft, hlength⟩ := hsplit
        dsimp only at hitems hleft hlength ⊢
        cases runs with
        | nil =>
            exact ih threshold (by omega) (by simpa using hitems)
              (by simpa [stacked] using hleft.trans halike)
        | cons top below =>
            have hstart : Stacks rank _ (stackRuns top below) := ⟨hrising, Alike.refl _⟩
            refine (collapse_yields hstack _ threshold hstart).bind fun collapsed hcollapsed => ?_
            refine ih collapsed.1 (by omega) ?_ ?_
            · exact List.forall_mem_cons.mpr ⟨hitems, hcollapsed.rising⟩
            · rw [List.map_cons, stacked_cons, List.append_assoc]
              exact (hcollapsed.alike.append hleft).trans halike

/-- **Sorting.**  If questions about the elements of a list are answered by their ranks, sorting it
upwards gives what sorting by merges gives. -/
theorem sortBy_eq (h : Ranked before rank list) :
    sortBy before list = .ok (list.mergeSort (mayPrecede rank)) := by
  have hnone : ∀ run ∈ ([] : List (Run α)).map (·.items), Rising rank run := nofun
  have hsorted := sortRuns_yields h list.length list.length Merging.payingStretch le_rfl hnone
    (Alike.refl list)
  change Yields _ (sortBy before list) at hsorted
  cases hresult : sortBy before list with
  | error error => exact (hsorted.of_error hresult).elim
  | ok sorted =>
      obtain ⟨hrising, halike⟩ := hsorted.of_ok hresult
      rw [eq_mergeSort hrising halike]

/-- Sorting downwards keeps the order of equals too. -/
theorem sortDownBy_eq (h : Ranked before rank list) :
    sortDownBy before list =
      .ok (list.mergeSort (mayPrecede fun x => OrderDual.toDual (rank x))) := by
  have hreverse : Ranked before rank list.reverse := h.subset fun x hx => List.mem_reverse.mp hx
  rw [sortDownBy, sortBy_eq hreverse, ← reverse_mergeSort]
  rfl

end ManifestLint.Sorting
