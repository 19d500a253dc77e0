import Mathlib.Data.List.TakeWhile
import ManifestLint.Proofs.Sorting.Outcome
import ManifestLint.Proofs.Sorting.Stable

/-!
# What searching and merging give

If questions are answered by ranks, no answer depends on how it is looked for.  All searches
split a run where the test ceases to hold.  A merge of two runs that go up is the merge of
the library, whether it moves elements or stretches, and from which end.

* `bisect_eq`, `gallopUp_eq`, `gallopDown_eq`: where a search splits a run.
* `Merging.Holds`: what every step of a merge keeps.
* `mergeRuns_yields`: the two runs merged.
-/

namespace ManifestLint.Sorting

variable {α ρ ε : Type}

/-- The computation is not refused, and its value is of a kind. -/
abbrev Yields (result : α → Prop) (computed : Except ε α) : Prop :=
  EndsIn result (fun _ => False) computed

/-! ## Searching -/

/-- The test answers by a predicate. -/
def Decides (test : α → Except ε Bool) (p : α → Bool) (list : List α) : Prop :=
  ∀ x ∈ list, test x = .ok (p x)

/-- The predicate holds of the elements at the start of a list, and of no later ones. -/
def Parted (p : α → Bool) (list : List α) : Prop := list.Pairwise fun x y => p y = true → p x = true

/-- The elements for which a predicate holds at the start of a list, and the others. -/
def parts (p : α → Bool) (list : List α) : List α × List α :=
  (list.takeWhile p, list.dropWhile p)

section

variable {test : α → Except ε Bool} {p : α → Bool} {list lower upper other : List α} {x : α}

theorem Decides.subset (h : Decides test p list) (hsubset : other ⊆ list) :
    Decides test p other :=
  fun x hx => h x (hsubset hx)

theorem Decides.fails (h : Decides test p list) : Decides (fails test) (fun x => !p x) list := by
  intro x hx
  rw [Sorting.fails, h x hx]
  rfl

theorem Parted.sublist (h : Parted p list) (hsublist : other.Sublist list) : Parted p other :=
  List.Pairwise.sublist hsublist h

/-- A list is split in front of any element for which the predicate does not hold. -/
theorem parts_append_of_neg (lower upper : List α) (hx : p x = false) :
    parts p (lower ++ x :: upper) = ((parts p lower).1, (parts p lower).2 ++ x :: upper) := by
  induction lower with
  | nil => simp [parts, hx]
  | cons y lower ih =>
      obtain ⟨htake, hdrop⟩ := Prod.mk.inj ih
      by_cases hy : p y = true
      · simp [parts, hy, htake, hdrop]
      · simp [parts, hy]

theorem parts_append_of_pos (hlower : ∀ y ∈ lower, p y = true) (upper : List α) :
    parts p (lower ++ upper) = (lower ++ (parts p upper).1, (parts p upper).2) := by
  simp only [parts, List.takeWhile_append_of_pos hlower, List.dropWhile_append_of_pos hlower]

theorem Parted.of_append_cons (h : Parted p (lower ++ x :: upper)) (hx : p x = true) :
    ∀ y ∈ lower, p y = true :=
  fun y hy => (List.pairwise_append.mp h).2.2 y hy x List.mem_cons_self hx

/-- Behind the place where a parted list is split the predicate holds no more. -/
theorem Parted.dropWhile (h : Parted p list) : ∀ y ∈ list.dropWhile p, p y = false := by
  induction list with
  | nil => nofun
  | cons x rest ih =>
      obtain ⟨hx, hrest⟩ := List.pairwise_cons.mp h
      by_cases hfirst : p x = true
      · rw [List.dropWhile_cons_of_pos hfirst]
        exact ih hrest
      · rw [List.dropWhile_cons_of_neg hfirst]
        intro y hy
        rcases List.mem_cons.mp hy with rfl | hmem
        · exact Bool.eq_false_of_not_eq_true hfirst
        · exact Bool.eq_false_of_not_eq_true fun hholds => hfirst (hx y hmem hholds)

/-- The same place is found from the other end. -/
theorem Parted.parts_reverse (h : Parted p list) :
    parts (fun x => !p x) list.reverse =
      ((parts p list).2.reverse, (parts p list).1.reverse) := by
  have hsplit : list.reverse = (parts p list).2.reverse ++ (parts p list).1.reverse := by
    rw [← List.reverse_append, parts, List.takeWhile_append_dropWhile]
  have hheld : ∀ y ∈ (parts p list).1.reverse, p y = true :=
    fun y hy => List.mem_takeWhile_imp (List.mem_reverse.mp hy)
  rw [hsplit, parts_append_of_pos fun y hy => by
    rw [h.dropWhile y (List.mem_reverse.mp hy), Bool.not_false]]
  cases hfront : (parts p list).1.reverse with
  | nil => simp [parts]
  | cons y rest => simp [parts, hheld y (hfront ▸ List.mem_cons_self)]

/-- Bisection finds the place. -/
theorem bisect_eq (h : Decides test p list) (hparted : Parted p list) :
    bisect test list = .ok (parts p list) := by
  induction hlength : list.length using Nat.strongRecOn generalizing list with
  | ind length ih =>
      cases hfound : list.drop (list.length / 2) with
      | nil =>
          have hempty : list = [] := by
            have hdrop := congrArg List.length hfound
            simp only [List.length_drop, List.length_nil] at hdrop
            exact List.eq_nil_of_length_eq_zero (by omega)
          subst hempty
          exact bisect_nil test
      | cons middle upper =>
          have hlist : list.take (list.length / 2) ++ middle :: upper = list := by
            rw [← hfound]
            exact List.take_append_drop ..
          have hsum := congrArg List.length hlist
          simp only [List.length_append, List.length_cons] at hsum
          rw [bisect_of_drop test hfound, h middle (hlist ▸ by simp)]
          generalize list.take (list.length / 2) = lower at hlist hsum
          subst hlist
          cases hmiddle : p middle with
          | true =>
              have hupper : bisect test upper = .ok (parts p upper) :=
                ih upper.length (by omega) (h.subset fun x hx => by simp [hx])
                  (hparted.sublist (by simp)) rfl
              rw [parts_append_of_pos (hparted.of_append_cons hmiddle)]
              change (do
                let found ← bisect test upper
                return (lower ++ middle :: found.1, found.2) : Except ε _) = _
              rw [hupper]
              simp [parts, hmiddle, bind, Except.bind, pure, Except.pure]
          | false =>
              have hlower : bisect test lower = .ok (parts p lower) :=
                ih lower.length (by omega) (h.subset fun x hx => by simp [hx])
                  (hparted.sublist (by simp)) rfl
              rw [parts_append_of_neg lower upper hmiddle]
              change (do
                let found ← bisect test lower
                return (found.1, found.2 ++ middle :: upper) : Except ε _) = _
              rw [hlower]
              rfl

theorem parts_cons_of_pos (upper : List α) (hx : p x = true) :
    parts p (x :: upper) = (x :: (parts p upper).1, (parts p upper).2) := by
  simp [parts, hx]

/-- Galloping finds the place, if the search of a block does. -/
theorem gallopFrom_eq {finish : List α → Except ε (List α × List α)} (h : Decides test p list)
    (hparted : Parted p list)
    (hfinish : ∀ block, block.Sublist list → finish block = .ok (parts p block)) (skipped : Nat) :
    gallopFrom test finish skipped list = .ok (parts p list) := by
  induction hlength : list.length using Nat.strongRecOn generalizing list skipped with
  | ind length ih =>
      cases hfound : list.drop skipped with
      | nil =>
          rw [gallopFrom_of_nil test finish hfound]
          exact hfinish list (List.Sublist.refl _)
      | cons probe rest =>
          have hlist : list.take skipped ++ probe :: rest = list := by
            rw [← hfound]
            exact List.take_append_drop ..
          have hsum := congrArg List.length hlist
          simp only [List.length_append, List.length_cons] at hsum
          rw [gallopFrom_of_drop test finish hfound, h probe (hlist ▸ by simp)]
          generalize list.take skipped = block at hlist hsum
          subst hlist
          have hrest : rest.Sublist (block ++ probe :: rest) := by simp
          cases hprobe : p probe with
          | true =>
              have hmore : gallopFrom test finish (2 * skipped + 1) rest = .ok (parts p rest) :=
                ih rest.length (by omega) (h.subset hrest.subset) (hparted.sublist hrest)
                  (fun other hother => hfinish other (hother.trans hrest)) _ rfl
              rw [parts_append_of_pos (hparted.of_append_cons hprobe), parts_cons_of_pos _ hprobe]
              change (do
                let found ← gallopFrom test finish (2 * skipped + 1) rest
                return (block ++ probe :: found.1, found.2) : Except ε _) = _
              rw [hmore]
              rfl
          | false =>
              have hblock := hfinish block (List.sublist_append_left ..)
              rw [parts_append_of_neg block rest hprobe]
              change (do
                let found ← finish block
                return (found.1, found.2 ++ probe :: rest) : Except ε _) = _
              rw [hblock]
              rfl

theorem gallop_eq {finish : List α → Except ε (List α × List α)} (h : Decides test p list)
    (hparted : Parted p list)
    (hfinish : ∀ block, block.Sublist list → finish block = .ok (parts p block)) :
    gallop test finish list = .ok (parts p list) := by
  cases list with
  | nil => rfl
  | cons first rest =>
      have hsublist : rest.Sublist (first :: rest) := List.sublist_cons_self ..
      rw [gallop, h first List.mem_cons_self]
      cases hfirst : p first with
      | true =>
          have hrest : gallopFrom test finish 0 rest = .ok (parts p rest) :=
            gallopFrom_eq (h.subset hsublist.subset) (hparted.sublist hsublist)
              (fun block hblock => hfinish block (hblock.trans hsublist)) 0
          rw [parts_cons_of_pos _ hfirst]
          change (do
            let found ← gallopFrom test finish 0 rest
            return (first :: found.1, found.2) : Except ε _) = _
          rw [hrest]
          rfl
      | false =>
          rw [← List.nil_append (first :: rest), parts_append_of_neg [] rest hfirst]
          rfl

theorem gallopUp_eq (h : Decides test p list) (hparted : Parted p list) :
    gallopUp test list = .ok (parts p list) :=
  gallop_eq h hparted fun _ hblock => bisect_eq (h.subset hblock.subset) (hparted.sublist hblock)

theorem Parted.of_reverse (h : Parted p list.reverse) : Parted (fun x => !p x) list :=
  (List.pairwise_reverse.mp h).imp fun {x y} hxy hy => by
    rw [Bool.not_eq_true'] at hy ⊢
    exact Bool.eq_false_of_not_eq_true fun hx => Bool.false_ne_true (hy.symm.trans (hxy hx))

/-- From its end a list is split where the test begins to hold. -/
theorem gallopDown_eq (h : Decides test p list) (hparted : Parted p list.reverse) :
    gallopDown test list = .ok (parts (fun x => !p x) list) := by
  refine gallop_eq h.fails hparted.of_reverse fun block hblock => ?_
  have hblockReverse : block.reverse.Sublist list.reverse := hblock.reverse
  have hreverse : Parted p block.reverse := hparted.sublist hblockReverse
  have hbisect : bisect test block.reverse = .ok (parts p block.reverse) :=
    bisect_eq (h.subset fun x hx => hblock.subset (List.mem_reverse.mp hx)) hreverse
  have hparts := hreverse.parts_reverse
  rw [List.reverse_reverse] at hparts
  rw [hparts]
  change (do
    let found ← bisect test block.reverse
    return (found.2.reverse, found.1.reverse) : Except ε _) = _
  rw [hbisect]
  rfl

end

/-! ## Merging -/

/-- The direction decides between heads by a predicate, the stretches that it finds end where
the predicate says, and all elements of the other run go before the last one of the kept
run. -/
structure Direction.Decides (d : Direction ε α) (wins : α → α → Bool) (kept other : List α) :
    Prop where
  otherFirst : ∀ k ∈ kept, ∀ o ∈ other, d.otherFirst k o = .ok (wins k o)
  keptStretch : ∀ o ∈ other, ∀ run, run <:+ kept →
    d.keptStretch o run = .ok (parts (fun k => !wins k o) run)
  otherStretch : ∀ k ∈ kept, ∀ run, run <:+ other →
    d.otherStretch k run = .ok (parts (wins k) run)
  last : ∀ k ∈ kept.getLast?, ∀ o ∈ other, wins k o = true

section

variable {wins : α → α → Bool}

/-- The elements of the first run that go before the head of the second one come first. -/
theorem merge_parts_left (xs : List α) (y : α) (ys : List α) :
    xs.merge (y :: ys) (fun k o => !wins k o) =
      (parts (fun k => !wins k y) xs).1 ++
        (parts (fun k => !wins k y) xs).2.merge (y :: ys) (fun k o => !wins k o) := by
  induction xs with
  | nil => rfl
  | cons x xs ih =>
      cases hwins : wins x y with
      | true => simp [parts, hwins]
      | false =>
          rw [List.cons_merge_cons_pos _ _ _ (by simp [hwins]), ih,
            parts_cons_of_pos xs (by simp [hwins])]
          rfl

theorem merge_parts_right (x : α) (xs ys : List α) :
    (x :: xs).merge ys (fun k o => !wins k o) =
      (parts (wins x) ys).1 ++ (x :: xs).merge (parts (wins x) ys).2 (fun k o => !wins k o) := by
  induction ys with
  | nil => rfl
  | cons y ys ih =>
      cases hwins : wins x y with
      | false => simp [parts, hwins]
      | true =>
          rw [List.cons_merge_cons_neg _ _ _ (by simp [hwins]), ih, parts_cons_of_pos ys hwins]
          rfl

end

namespace Merging

/-- The merge has come from the runs of the start, and leads to the target; a part of the kept run
is left. -/
structure Holds (wins : α → α → Bool) (kept other target : List α) (m : Merging α) : Prop where
  kept : m.kept <:+ kept
  other : m.other <:+ other
  left : m.kept ≠ []
  result : m.merged.reverse ++ m.kept.merge m.other (fun k o => !wins k o) = target

/-- How many elements have not been moved. -/
def size (m : Merging α) : Nat := m.kept.length + m.other.length

/-- A merge has been carried on, by at least one element if it was not settled. -/
structure Advances (wins : α → α → Bool) (kept other target : List α) (m next : Merging α) :
    Prop where
  holds : next.Holds wins kept other target
  size_le : next.size ≤ m.size
  size_lt : m.heads? ≠ none → next.size < m.size

variable {wins : α → α → Bool} {kept other target : List α} {m next last : Merging α} {k o : α}
  {d : Direction ε α}

theorem heads?_eq_some (h : m.heads? = some (k, o)) :
    ∃ keptRest otherRest, keptRest ≠ [] ∧ m.kept = k :: keptRest ∧ m.other = o :: otherRest := by
  unfold heads? at h
  split at h
  · next hkept hother =>
      obtain ⟨rfl, rfl⟩ := Prod.mk.inj (Option.some.inj h)
      exact ⟨_, _, by simp, hkept, hother⟩
  · cases h

theorem heads?_eq_none (h : m.heads? = none) (hleft : m.kept ≠ []) :
    m.other = [] ∨ ∃ last, m.kept = [last] := by
  rcases m with ⟨_ | ⟨k, _ | ⟨next, kept⟩⟩, _ | ⟨o, other⟩, merged⟩
  · exact .inl rfl
  · exact absurd rfl hleft
  · exact .inl rfl
  · exact .inr ⟨k, rfl⟩
  · exact .inl rfl
  · cases h

namespace Holds

variable (h : m.Holds wins kept other target)

include h

theorem takeOther (hheads : m.heads? = some (k, o)) (hwins : wins k o = true) :
    m.takeOther.Holds wins kept other target ∧ m.takeOther.size < m.size := by
  obtain ⟨keptRest, otherRest, -, hkept, hother⟩ := heads?_eq_some hheads
  have hresult := h.result
  rw [hkept, hother, List.cons_merge_cons_neg _ _ _ (by simp [hwins])] at hresult
  rw [Merging.takeOther, hother]
  refine ⟨⟨h.kept, ?_, h.left, ?_⟩, ?_⟩
  · exact ((List.suffix_cons o otherRest).trans (hother ▸ List.suffix_rfl)).trans h.other
  · rw [hkept, ← hresult]
    simp
  · simp [size, hother]

theorem takeKept (hheads : m.heads? = some (k, o)) (hwins : wins k o = false) :
    m.takeKept.Holds wins kept other target ∧ m.takeKept.size < m.size := by
  obtain ⟨keptRest, otherRest, hrest, hkept, hother⟩ := heads?_eq_some hheads
  have hresult := h.result
  rw [hkept, hother, List.cons_merge_cons_pos _ _ _ (by simp [hwins])] at hresult
  rw [Merging.takeKept, hkept]
  refine ⟨⟨?_, h.other, hrest, ?_⟩, ?_⟩
  · exact ((List.suffix_cons k keptRest).trans (hkept ▸ List.suffix_rfl)).trans h.kept
  · rw [hother, ← hresult]
    simp
  · simp [size, hkept]

/-- The last element of the kept run is the last one of what is left of it. -/
theorem getLast?_kept : m.kept.getLast? = kept.getLast? := by
  obtain ⟨front, hfront⟩ := h.kept
  rw [← hfront, List.getLast?_append_of_ne_nil _ h.left]

/-- A stretch of the kept run is moved. -/
theorem stretchKept (hd : d.Decides wins kept other) (hheads : m.heads? = some (k, o)) :
    let split := parts (fun k => !wins k o) m.kept
    Holds wins kept other target
      { m with kept := split.2, merged := split.1.reverse ++ m.merged } := by
  obtain ⟨keptRest, otherRest, -, hkept, hother⟩ := heads?_eq_some hheads
  have ho : o ∈ other := h.other.subset (hother ▸ List.mem_cons_self)
  intro split
  have hall : split.1 ++ split.2 = m.kept := List.takeWhile_append_dropWhile
  refine ⟨?_, h.other, ?_, ?_⟩
  · exact List.IsSuffix.trans ⟨split.1, hall⟩ h.kept
  · intro (hnone : split.2 = [])
    obtain ⟨last, hlast⟩ : ∃ last, m.kept.getLast? = some last :=
      ⟨_, List.getLast?_eq_some_getLast h.left⟩
    have hwins := hd.last last (h.getLast?_kept ▸ hlast) o ho
    have hmem := List.mem_of_getLast? hlast
    rw [← hall, hnone, List.append_nil] at hmem
    have hlose := List.mem_takeWhile_imp hmem
    rw [hwins] at hlose
    cases hlose
  · have hresult := h.result
    rw [hother, merge_parts_left, ← List.append_assoc] at hresult
    rw [← hresult, List.reverse_append, List.reverse_reverse, hother]

theorem stretchOther (hheads : m.heads? = some (k, o)) :
    let split := parts (wins k) m.other
    Holds wins kept other target
      { m with other := split.2, merged := split.1.reverse ++ m.merged } := by
  obtain ⟨keptRest, otherRest, -, hkept, hother⟩ := heads?_eq_some hheads
  intro split
  have hall : split.1 ++ split.2 = m.other := List.takeWhile_append_dropWhile
  refine ⟨h.kept, ?_, h.left, ?_⟩
  · exact List.IsSuffix.trans ⟨split.1, hall⟩ h.other
  · have hresult := h.result
    rw [hkept, merge_parts_right, ← List.append_assoc] at hresult
    rw [← hresult, List.reverse_append, List.reverse_reverse, hkept]

/-- If no heads are left, the rest is settled. -/
theorem finish_eq (hd : d.Decides wins kept other) (hheads : m.heads? = none) :
    m.finish = target := by
  rw [← h.result]
  rcases heads?_eq_none hheads h.left with hnone | ⟨last, hlast⟩
  · rw [finish, hnone, List.merge_right]
    split
    · next hkept => rw [hkept, List.append_nil]
    · rw [List.append_nil]
  · have hkept : last ∈ kept.getLast? := by
      rw [← h.getLast?_kept, hlast]
      rfl
    have hall : (parts (wins last) m.other).1 = m.other :=
      List.takeWhile_eq_self_iff.mpr fun o ho => hd.last last hkept o (h.other.subset ho)
    have hnone : (parts (wins last) m.other).2 = [] :=
      List.dropWhile_eq_nil_iff.mpr fun o ho => hd.last last hkept o (h.other.subset ho)
    rw [finish, hlast, merge_parts_right, hall, hnone, List.merge_right]
    exact List.append_assoc ..

end Holds

/-! ## Steps of a merge -/

section

variable (hd : d.Decides wins kept other) (h : m.Holds wins kept other target)

theorem Advances.refl (h : m.Holds wins kept other target) (hheads : m.heads? = none) :
    Advances wins kept other target m m :=
  ⟨h, le_rfl, fun hsome => absurd hheads hsome⟩

/-- Carried on once, a merge may stop or be carried on. -/
theorem Advances.trans (h : Advances wins kept other target m next)
    (hlast : last.Holds wins kept other target) (hsize : last.size ≤ next.size) :
    Advances wins kept other target m last :=
  ⟨hlast, hsize.trans h.size_le, fun hheads => hsize.trans_lt (h.size_lt hheads)⟩

/-- A stretch is moved, and then the head of the opposite run if that is left.  If the stretch
is empty, the heads have stayed. -/
theorem Advances.of_stretch {take : Merging α → Merging α}
    (hnext : next.Holds wins kept other target) (hsize : next.size ≤ m.size)
    (hsame : next.size = m.size → next.heads? = m.heads?)
    (htake : ∀ k o, next.heads? = some (k, o) →
      (take next).Holds wins kept other target ∧ (take next).size < next.size) :
    Advances wins kept other target m (if next.heads?.isNone then next else take next) := by
  cases hheads : next.heads? with
  | none =>
      refine ⟨hnext, hsize, fun hsome => lt_of_le_of_ne hsize fun heq => hsome ?_⟩
      rw [← hsame heq, hheads]
  | some heads =>
      obtain ⟨htaken, hless⟩ := htake heads.1 heads.2 hheads
      exact ⟨htaken, hless.le.trans hsize, fun _ => hless.trans_le hsize⟩

theorem head_dropWhile {p : α → Bool} {list rest : List α} {x : α}
    (h : list.dropWhile p = x :: rest) : p x = false := by
  have hhead := List.head?_dropWhile_not p list
  rw [h] at hhead
  exact hhead

include hd h

theorem alternate_yields (threshold steps keptWins otherWins : Nat) :
    Yields (fun next => next.Holds wins kept other target ∧ next.size ≤ m.size)
      (m.alternate d threshold steps keptWins otherWins) := by
  induction steps generalizing m keptWins otherWins with
  | zero => exact ⟨h, le_rfl⟩
  | succ steps ih =>
      unfold alternate
      cases hheads : m.heads? with
      | none => exact ⟨h, le_rfl⟩
      | some heads =>
          obtain ⟨k, o⟩ := heads
          obtain ⟨hk, ho⟩ := heads_mem hheads
          dsimp only
          split
          · exact ⟨h, le_rfl⟩
          · rw [hd.otherFirst k (h.kept.subset hk) o (h.other.subset ho)]
            cases hwins : wins k o with
            | true =>
                obtain ⟨hnext, hsize⟩ := h.takeOther hheads hwins
                exact (ih hnext 0 (otherWins + 1)).mono fun next hlast =>
                  ⟨hlast.1, hlast.2.trans hsize.le⟩
            | false =>
                obtain ⟨hnext, hsize⟩ := h.takeKept hheads hwins
                exact (ih hnext (keptWins + 1) 0).mono fun next hlast =>
                  ⟨hlast.1, hlast.2.trans hsize.le⟩

theorem gallopKept_yields :
    Yields (fun moved => Advances wins kept other target m moved.2) (m.gallopKept d) := by
  unfold gallopKept
  cases hheads : m.heads? with
  | none => exact Advances.refl h hheads
  | some heads =>
      obtain ⟨k, o⟩ := heads
      obtain ⟨-, ho⟩ := heads_mem hheads
      have hmoved := h.stretchKept hd hheads
      have hsplit := List.takeWhile_append_dropWhile (p := fun k => !wins k o) (l := m.kept)
      have hsuffix : m.kept.dropWhile (fun k => !wins k o) <:+ m.kept := ⟨_, hsplit⟩
      dsimp only at hmoved ⊢
      rw [hd.keptStretch o (h.other.subset ho) m.kept h.kept]
      refine Advances.of_stretch hmoved ?_ ?_ ?_
      · exact Nat.add_le_add_right hsuffix.length_le _
      · intro hsize
        have hstay : m.kept.dropWhile (fun k => !wins k o) = m.kept :=
          hsuffix.eq_of_length (Nat.add_right_cancel hsize)
        simp only [heads?, parts, hstay]
      · intro first second hnext
        obtain ⟨_, _, -, hfirst, hsecond⟩ := heads?_eq_some hnext
        obtain ⟨_, _, -, -, hother⟩ := heads?_eq_some hheads
        obtain rfl := (List.cons.inj (hsecond.symm.trans hother)).1
        exact hmoved.takeOther hnext (by simpa using head_dropWhile hfirst)

theorem gallopOther_yields :
    Yields (fun moved => Advances wins kept other target m moved.2) (m.gallopOther d) := by
  unfold gallopOther
  cases hheads : m.heads? with
  | none => exact Advances.refl h hheads
  | some heads =>
      obtain ⟨k, o⟩ := heads
      obtain ⟨hk, -⟩ := heads_mem hheads
      have hmoved := h.stretchOther hheads
      have hsplit := List.takeWhile_append_dropWhile (p := wins k) (l := m.other)
      have hsuffix : m.other.dropWhile (wins k) <:+ m.other := ⟨_, hsplit⟩
      dsimp only at hmoved ⊢
      rw [hd.otherStretch k (h.kept.subset hk) m.other h.other]
      refine Advances.of_stretch hmoved ?_ ?_ ?_
      · exact Nat.add_le_add_left hsuffix.length_le _
      · intro hsize
        have hstay : m.other.dropWhile (wins k) = m.other :=
          hsuffix.eq_of_length (Nat.add_left_cancel hsize)
        simp only [heads?, parts, hstay]
      · intro first second hnext
        obtain ⟨_, _, -, hfirst, hsecond⟩ := heads?_eq_some hnext
        obtain ⟨_, _, -, hkept, -⟩ := heads?_eq_some hheads
        obtain rfl := (List.cons.inj (hfirst.symm.trans hkept)).1
        exact hmoved.takeKept hnext (head_dropWhile hsecond)

theorem gallopBoth_yields :
    Yields (fun moved => Advances wins kept other target m moved.2.2) (m.gallopBoth d) := by
  unfold gallopBoth
  split
  · refine (gallopKept_yields hd h).bind fun first hfirst => ?_
    refine (gallopOther_yields hd hfirst.holds).bind fun second hsecond => ?_
    exact hfirst.trans hsecond.holds hsecond.size_le
  · refine (gallopOther_yields hd h).bind fun first hfirst => ?_
    refine (gallopKept_yields hd hfirst.holds).bind fun second hsecond => ?_
    exact hfirst.trans hsecond.holds hsecond.size_le

/-- Rounds of galloping move at least one element, if there is time for one round. -/
theorem gallopRounds_yields (steps threshold : Nat) :
    Yields (fun moved => Advances wins kept other target m moved.2)
      (m.gallopRounds d (steps + 1) threshold) := by
  induction steps generalizing m threshold with
  | zero =>
      refine (gallopBoth_yields hd h).bind fun moved hmoved => ?_
      obtain ⟨first, second, next⟩ := moved
      dsimp only
      split
      · exact hmoved
      · split
        · exact hmoved
        · exact hmoved
  | succ steps ih =>
      refine (gallopBoth_yields hd h).bind fun moved hmoved => ?_
      obtain ⟨first, second, next⟩ := moved
      dsimp only
      split
      · exact hmoved
      · split
        · refine (ih hmoved.holds _).mono fun last hlast => ?_
          exact hmoved.trans hlast.holds hlast.size_le
        · exact hmoved

/-- A merge comes to its target, if there is time for all its elements. -/
theorem run_yields (size steps threshold : Nat) (hsteps : m.size ≤ steps + 1) :
    Yields (fun merged => merged.2 = target) (m.run d (size + 1) steps threshold) := by
  induction steps generalizing m threshold with
  | zero =>
      refine h.finish_eq hd ?_
      cases hheads : m.heads? with
      | none => rfl
      | some heads =>
          obtain ⟨keptRest, otherRest, -, hkept, hother⟩ := heads?_eq_some (k := heads.1)
            (o := heads.2) hheads
          rw [Merging.size, hkept, hother, List.length_cons, List.length_cons] at hsteps
          omega
  | succ steps ih =>
      refine (alternate_yields hd h threshold (size + 1) 0 0).bind fun next hnext => ?_
      obtain ⟨hholds, hsize⟩ := hnext
      split
      · next hnone => exact hholds.finish_eq hd (Option.isNone_iff_eq_none.mp hnone)
      · next hsome =>
          refine (gallopRounds_yields hd hholds size threshold).bind fun moved hmoved => ?_
          have hless := hmoved.size_lt fun hnone => hsome (Option.isNone_iff_eq_none.mpr hnone)
          exact ih hmoved.holds moved.1 (by omega)

end

/-- Two runs merged, if the head of the other one goes first. -/
theorem all_yields (hd : d.Decides wins kept other) (hkept : kept ≠ [])
    (hfirst : ∀ k ∈ kept.head?, ∀ o ∈ other.head?, wins k o = true) (hother : other ≠ [])
    (threshold : Nat) :
    Yields (fun merged => merged.2 = kept.merge other (fun k o => !wins k o))
      (Merging.all d threshold kept other) := by
  cases kept with
  | nil => exact absurd rfl hkept
  | cons k keptRest =>
      cases other with
      | nil => exact absurd rfl hother
      | cons o otherRest =>
          have hwins : wins k o = true := hfirst k rfl o rfl
          refine run_yields hd ⟨List.suffix_rfl, List.suffix_cons .., hkept, ?_⟩ _ _ threshold ?_
          · rw [List.cons_merge_cons_neg _ _ _ (by simp [hwins])]
            rfl
          · simp only [size, Merging.takeOther, List.length_cons]
            omega

end Merging

/-! ## Merging by rank -/

section

variable [LinearOrder ρ]

/-- Questions about the elements of a list are answered by their ranks. -/
def Ranked (before : α → α → Except ε Bool) (rank : α → ρ) (list : List α) : Prop :=
  ∀ x ∈ list, ∀ y ∈ list, before x y = .ok (decide (rank x < rank y))

variable {before : α → α → Except ε Bool} {rank : α → ρ} {list lower upper other : List α} {x : α}

theorem Ranked.subset (h : Ranked before rank list) (hsubset : other ⊆ list) :
    Ranked before rank other :=
  fun x hx y hy => h x (hsubset hx) y (hsubset hy)

theorem mayPrecede_eq : mayPrecede rank = fun x y => !decide (rank y < rank x) := by
  funext x y
  simp [mayPrecede, ← not_lt]

theorem mayPrecede_toDual_eq :
    mayPrecede (fun x => OrderDual.toDual (rank x)) = fun x y => !decide (rank x < rank y) := by
  funext x y
  simp [mayPrecede, ← not_lt]

/-- In a run that goes up the elements below a rank come first. -/
theorem Rising.parted_lt (h : Rising rank list) (r : ρ) : Parted (fun x => rank x < r) list :=
  h.imp fun hxy hy => decide_eq_true (hxy.trans_lt (of_decide_eq_true hy))

theorem Rising.parted_le (h : Rising rank list) (r : ρ) :
    Parted (fun x => !decide (r < rank x)) list :=
  h.imp fun hxy hy => by
    simp only [Bool.not_eq_true', decide_eq_false_iff_not, not_lt] at hy ⊢
    exact hxy.trans hy

theorem Rising.sublist (h : Rising rank list) (hsublist : other.Sublist list) :
    Rising rank other :=
  List.Pairwise.sublist hsublist h

theorem Rising.le_getLast? (h : Rising rank list) {last : α} (hlast : list.getLast? = some last) :
    ∀ x ∈ list, rank x ≤ rank last := by
  obtain ⟨front, rfl⟩ := List.getLast?_eq_some_iff.mp hlast
  intro x hx
  rcases List.mem_append.mp hx with hfront | hsame
  · exact (List.pairwise_append.mp h).2.2 x hfront last List.mem_cons_self
  · rw [List.mem_singleton.mp hsame]

section

variable (h : Ranked before rank (lower ++ upper)) (hlower : Rising rank lower)
  (hupper : Rising rank upper)

include h hlower hupper

theorem Direction.up_decides (hlast : ∀ x ∈ lower.getLast?, ∀ y ∈ upper, rank y < rank x) :
    (Direction.up before).Decides (fun x y => rank y < rank x) lower upper where
  otherFirst x hx y hy := h y (List.mem_append_right _ hy) x (List.mem_append_left _ hx)
  keptStretch y hy run hrun := by
    have hdecides : Sorting.Decides (before y) (fun x => decide (rank y < rank x)) run :=
      fun x hx => h y (List.mem_append_right _ hy) x (List.mem_append_left _ (hrun.subset hx))
    exact gallopUp_eq hdecides.fails ((hlower.sublist hrun.sublist).parted_le (rank y))
  otherStretch x hx run hrun := by
    have hdecides : Sorting.Decides (before · x) (fun y => decide (rank y < rank x)) run :=
      fun y hy => h y (List.mem_append_right _ (hrun.subset hy)) x (List.mem_append_left _ hx)
    exact gallopUp_eq hdecides ((hupper.sublist hrun.sublist).parted_lt (rank x))
  last x hx y hy := decide_eq_true (hlast x hx y hy)

theorem Direction.down_decides (hfirst : ∀ y ∈ upper.head?, ∀ x ∈ lower, rank y < rank x) :
    (Direction.down before).Decides (fun y x => rank y < rank x) upper.reverse lower.reverse where
  otherFirst y hy x hx :=
    h y (List.mem_append_right _ (List.mem_reverse.mp hy)) x
      (List.mem_append_left _ (List.mem_reverse.mp hx))
  keptStretch x hx run hrun := by
    have hdecides : Sorting.Decides (before · x) (fun y => decide (rank y < rank x)) run :=
      fun y hy => h y (List.mem_append_right _ (List.mem_reverse.mp (hrun.subset hy))) x
        (List.mem_append_left _ (List.mem_reverse.mp hx))
    have hrising : Rising rank run.reverse := hupper.sublist (by simpa using hrun.sublist.reverse)
    exact gallopDown_eq hdecides (hrising.parted_lt (rank x))
  otherStretch y hy run hrun := by
    have hdecides : Sorting.Decides (before y) (fun x => decide (rank y < rank x)) run :=
      fun x hx => h y (List.mem_append_right _ (List.mem_reverse.mp hy)) x
        (List.mem_append_left _ (List.mem_reverse.mp (hrun.subset hx)))
    have hrising : Rising rank run.reverse := hlower.sublist (by simpa using hrun.sublist.reverse)
    have hdown := gallopDown_eq hdecides.fails (hrising.parted_le (rank y))
    simp only [Bool.not_not] at hdown
    exact hdown
  last y hy x hx := decide_eq_true (hfirst y (by simpa using hy) x (List.mem_reverse.mp hx))

/-- Two runs merged from either end, if the first element of the upper one comes before all of
the lower one, and all of the upper one before the last element of the lower one. -/
theorem Merging.all_up_yields (hnonempty : lower ≠ [] ∧ upper ≠ [])
    (hfirst : ∀ y ∈ upper.head?, ∀ x ∈ lower, rank y < rank x)
    (hlast : ∀ x ∈ lower.getLast?, ∀ y ∈ upper, rank y < rank x) (threshold : Nat) :
    Yields (fun merged => merged.2 = lower.merge upper (mayPrecede rank))
      (Merging.all (.up before) threshold lower upper) := by
  rw [mayPrecede_eq]
  refine Merging.all_yields (Direction.up_decides h hlower hupper hlast) hnonempty.1 ?_
    hnonempty.2 threshold
  exact fun x hx y hy => decide_eq_true (hfirst y hy x (List.mem_of_head? hx))

theorem Merging.all_down_yields (hnonempty : lower ≠ [] ∧ upper ≠ [])
    (hfirst : ∀ y ∈ upper.head?, ∀ x ∈ lower, rank y < rank x)
    (hlast : ∀ x ∈ lower.getLast?, ∀ y ∈ upper, rank y < rank x) (threshold : Nat) :
    Yields (fun merged => merged.2.reverse = lower.merge upper (mayPrecede rank))
      (Merging.all (.down before) threshold upper.reverse lower.reverse) := by
  have hdown := Merging.all_yields (Direction.down_decides h hlower hupper hfirst)
    (by simpa using hnonempty.2) (fun y hy x hx => decide_eq_true ?_) (by simpa using hnonempty.1)
    threshold
  · refine hdown.mono fun merged hmerged => ?_
    rw [hmerged, ← mayPrecede_toDual_eq, reverse_merge hlower hupper]
  · rw [List.head?_reverse] at hx hy
    exact hlast x hx y (List.mem_of_getLast? hy)

end

/-- In front of the first element of the upper run the lower one stays as it is. -/
theorem bottom_yields {first : α} {rest : List α}
    (h : Ranked before rank (lower ++ first :: rest)) (hlower : Rising rank lower) :
    Yields (fun split => split.1 ++ split.2 = lower ∧ (∀ x ∈ split.2, rank first < rank x) ∧
        lower.merge (first :: rest) (mayPrecede rank) =
          split.1 ++ split.2.merge (first :: rest) (mayPrecede rank))
      (gallopUp (fails (before first)) lower) := by
  have hdecides : Decides (before first) (fun x => decide (rank first < rank x)) lower :=
    fun x hx => h first (by simp) x (List.mem_append_left _ hx)
  have hparted := hlower.parted_le (rank first)
  rw [gallopUp_eq hdecides.fails hparted, mayPrecede_eq]
  refine ⟨List.takeWhile_append_dropWhile, fun x hx => ?_, merge_parts_left lower first rest⟩
  simpa using hparted.dropWhile x hx

/-- Behind the last element of the lower run the upper one stays as it is. -/
theorem top_yields {last : α} (h : Ranked before rank (lower ++ upper)) (hlower : Rising rank lower)
    (hupper : Rising rank upper) (hlast : lower.getLast? = some last) :
    Yields (fun split => split.2.reverse ++ split.1.reverse = upper ∧
        (∀ y ∈ split.2, rank y < rank last) ∧
        lower.merge upper (mayPrecede rank) =
          lower.merge split.2.reverse (mayPrecede rank) ++ split.1.reverse)
      (gallopDown (before · last) upper.reverse) := by
  have hmem : last ∈ lower ++ upper := List.mem_append_left _ (List.mem_of_getLast? hlast)
  have hdecides : Decides (before · last) (fun y => decide (rank y < rank last)) upper.reverse :=
    fun y hy => h y (List.mem_append_right _ (List.mem_reverse.mp hy)) last hmem
  have hparted : Parted (fun y => rank y < rank last) upper.reverse.reverse := by
    rw [List.reverse_reverse]
    exact hupper.parted_lt (rank last)
  rw [gallopDown_eq hdecides hparted]
  have hsplit : (parts (fun y => !decide (rank y < rank last)) upper.reverse).2.reverse ++
      (parts (fun y => !decide (rank y < rank last)) upper.reverse).1.reverse = upper := by
    rw [← List.reverse_append, parts, List.takeWhile_append_dropWhile, List.reverse_reverse]
  refine ⟨hsplit, fun y hy => by simpa using hparted.of_reverse.dropWhile y hy, ?_⟩
  conv_lhs => rw [← hsplit]
  refine merge_append_of_le fun x hx z hz => (hlower.le_getLast? hlast x hx).trans ?_
  have habove := List.mem_takeWhile_imp (List.mem_reverse.mp hz)
  simpa using habove

/-- **Merging.**  Two runs that go up are merged, those elements of the lower one first that may
precede. -/
theorem mergeRuns_yields (h : Ranked before rank (lower ++ upper)) (hlower : Rising rank lower)
    (hupper : Rising rank upper) (threshold : Nat) :
    Yields (fun merged => merged.2 = lower.merge upper (mayPrecede rank))
      (mergeRuns before threshold lower upper) := by
  cases upper with
  | nil => exact EndsIn.pure (List.merge_right _).symm
  | cons first rest =>
      refine (bottom_yields h hlower).bind fun split hbottom => ?_
      obtain ⟨bottom, middle⟩ := split
      obtain ⟨hsplit, hfirst, hmerge⟩ := hbottom
      dsimp only at hsplit hfirst hmerge ⊢
      rw [hmerge]
      have hmiddle : middle.Sublist lower := hsplit ▸ List.sublist_append_right ..
      split
      · next hnone =>
          obtain rfl : middle = [] := List.reverse_eq_nil_iff.mp hnone
          exact EndsIn.pure (by rw [List.nil_merge])
      · next last others hreverse =>
          have hlast : middle.getLast? = some last := by
            rw [List.getLast?_eq_head?_reverse, hreverse, List.head?_cons]
          have hranked : Ranked before rank (middle ++ first :: rest) :=
            h.subset (hmiddle.append_right _).subset
          refine (top_yields hranked (hlower.sublist hmiddle) hupper hlast).bind
            fun split htop => ?_
          obtain ⟨top, left⟩ := split
          obtain ⟨hall, hbelow, hmerged⟩ := htop
          dsimp only at hall hbelow hmerged ⊢
          rw [hmerged]
          have hleft : left.reverse.Sublist (first :: rest) := hall ▸ List.sublist_append_left ..
          split
          · next hnone =>
              refine EndsIn.pure ?_
              rw [List.isEmpty_iff.mp hnone, List.reverse_nil, List.merge_right, List.append_assoc]
          · next hsome =>
              have hnonempty : middle ≠ [] ∧ left.reverse ≠ [] := by
                refine ⟨?_, by simpa using hsome⟩
                rintro rfl
                cases hlast
              have hends : ∀ y ∈ left.reverse.head?, ∀ x ∈ middle, rank y < rank x := by
                intro y hy
                have hhead := congrArg List.head? hall
                rw [List.head?_append_of_ne_nil _ hnonempty.2, Option.mem_def.mp hy] at hhead
                obtain rfl := Option.some.inj hhead
                exact hfirst
              have hstarts : ∀ x ∈ middle.getLast?, ∀ y ∈ left.reverse, rank y < rank x := by
                intro x hx y hy
                obtain rfl := Option.some.inj (hlast.symm.trans hx)
                exact hbelow y (List.mem_reverse.mp hy)
              have hboth : Ranked before rank (middle ++ left.reverse) :=
                hranked.subset (hleft.append_left _).subset
              have hlowerMiddle := hlower.sublist hmiddle
              have hupperLeft := hupper.sublist hleft
              split
              · refine (Merging.all_up_yields hboth hlowerMiddle hupperLeft hnonempty hends hstarts
                  threshold).bind fun merged hresult => EndsIn.pure ?_
                rw [hresult, List.append_assoc]
              · have hdown := Merging.all_down_yields hboth hlowerMiddle hupperLeft hnonempty hends
                  hstarts threshold
                rw [List.reverse_reverse] at hdown
                refine hdown.bind fun merged hresult => EndsIn.pure ?_
                rw [hresult, List.append_assoc]

end

end ManifestLint.Sorting
