import ManifestLint.Proofs.Collections.Ending
import ManifestLint.Sorting.Runs

/-!
# What a sort ends with

Whatever order it is given, and be it none at all, a sort loses no element and
invents none: its result is a permutation of the list.  It is refused only if one of
the questions is, and it asks about elements of the list alone.  Both are proved
together, from the bisection of a run up to the whole sort.

* `sortBy_outcome`, `sortDownBy_outcome`: the result, and the refusals.
-/

namespace ManifestLint.Sorting

variable {α ε : Type} {failure : ε → Prop}

/-- A question about each element of a list is refused only with errors of a kind. -/
def Answered (failure : ε → Prop) (test : α → Except ε Bool) (list : List α) : Prop :=
  ∀ x ∈ list, EndsIn (fun _ => True) failure (test x)

/-- A question about two elements of a list is refused only with errors of a kind. -/
def Compared (failure : ε → Prop) (before : α → α → Except ε Bool) (list : List α) : Prop :=
  ∀ x ∈ list, ∀ y ∈ list, EndsIn (fun _ => True) failure (before x y)

section

variable {test : α → Except ε Bool} {before : α → α → Except ε Bool} {list other : List α}

theorem Answered.subset (h : Answered failure test list) (hsubset : other ⊆ list) :
    Answered failure test other :=
  fun x hx => h x (hsubset hx)

theorem Compared.subset (h : Compared failure before list) (hsubset : other ⊆ list) :
    Compared failure before other :=
  fun x hx y hy => h x (hsubset hx) y (hsubset hy)

theorem Compared.left (h : Compared failure before list) {y : α} (hy : y ∈ list) :
    Answered failure (before · y) list :=
  fun x hx => h x hx y hy

theorem Compared.right (h : Compared failure before list) {x : α} (hx : x ∈ list) :
    Answered failure (before x) list :=
  fun y hy => h x hx y hy

theorem Answered.fails (h : Answered failure test list) : Answered failure (fails test) list :=
  fun x hx => (h x hx).map fun _ _ => trivial

end

/-! ## Searching -/

/-- A search splits the list in two. -/
abbrev Splits (failure : ε → Prop) (list : List α) (search : Except ε (List α × List α)) :
    Prop :=
  EndsIn (fun split => split.1 ++ split.2 = list) failure search

/-- Bisection asks about the element in the middle, and goes on above or below it. -/
theorem bisect_of_drop (test : α → Except ε Bool) {list upper : List α} {middle : α}
    (hfound : list.drop (list.length / 2) = middle :: upper) :
    bisect test list = do
      let lower := list.take (list.length / 2)
      if ← test middle then
        let (held, others) ← bisect test upper
        return (lower ++ middle :: held, others)
      else
        let (held, others) ← bisect test lower
        return (held, others ++ middle :: upper) := by
  rw [bisect]
  split
  · next hnone => rw [hnone] at hfound; cases hfound
  · next other rest hother =>
      obtain ⟨rfl, rfl⟩ := List.cons.inj (hother.symm.trans hfound)
      rfl

theorem bisect_nil (test : α → Except ε Bool) : bisect test [] = .ok ([], []) := by
  rw [bisect]
  split
  · rfl
  · next hfound => simp at hfound

theorem bisect_outcome {test : α → Except ε Bool} {list : List α}
    (h : Answered failure test list) : Splits failure list (bisect test list) := by
  induction hlength : list.length using Nat.strongRecOn generalizing list with
  | ind length ih =>
      cases hfound : list.drop (list.length / 2) with
      | nil =>
          have hempty : list = [] := by
            have hdrop := congrArg List.length hfound
            simp only [List.length_drop, List.length_nil] at hdrop
            exact List.eq_nil_of_length_eq_zero (by omega)
          subst hempty
          rw [bisect_nil]
          exact EndsIn.pure rfl
      | cons middle upper =>
          have hlist : list.take (list.length / 2) ++ middle :: upper = list := by
            rw [← hfound]
            exact List.take_append_drop ..
          have hsum := congrArg List.length hlist
          simp only [List.length_append, List.length_cons] at hsum
          have hupper : Answered failure test upper :=
            h.subset (hlist ▸ fun x hx => by simp [hx])
          have hlower : Answered failure test (list.take (list.length / 2)) :=
            h.subset (List.take_subset ..)
          rw [bisect_of_drop test hfound]
          refine (h middle (hlist ▸ by simp)).bind fun holds _ => ?_
          cases holds with
          | true =>
              refine (ih _ (by omega) hupper rfl).bind fun split hsplit => EndsIn.pure ?_
              rw [← hsplit] at hlist
              simpa using hlist
          | false =>
              refine (ih _ (by omega) hlower rfl).bind fun split hsplit => EndsIn.pure ?_
              rw [← hsplit] at hlist
              simpa using hlist

theorem insertBy_outcome {before : α → α → Except ε Bool} {x : α} {sorted : List α}
    (h : Compared failure before (x :: sorted)) :
    EndsIn (fun result => result.Perm (x :: sorted)) failure (insertBy before x sorted) := by
  have hx : Answered failure (before x) sorted :=
    (h.right (List.mem_cons_self ..)).subset (List.subset_cons_self ..)
  refine (bisect_outcome hx.fails).bind fun split hsplit => EndsIn.pure ?_
  rw [← hsplit]
  exact List.perm_middle

/-- Galloping goes on as long as the test holds for the last element of a block. -/
theorem gallopFrom_of_drop (test : α → Except ε Bool)
    (finish : List α → Except ε (List α × List α)) {skipped : Nat} {list rest : List α}
    {probe : α} (hfound : list.drop skipped = probe :: rest) :
    gallopFrom test finish skipped list = do
      let block := list.take skipped
      if ← test probe then
        let (held, others) ← gallopFrom test finish (2 * skipped + 1) rest
        return (block ++ probe :: held, others)
      else
        let (held, others) ← finish block
        return (held, others ++ probe :: rest) := by
  rw [gallopFrom]
  split
  · next hnone => rw [hnone] at hfound; cases hfound
  · next other others hother =>
      obtain ⟨rfl, rfl⟩ := List.cons.inj (hother.symm.trans hfound)
      rfl

theorem gallopFrom_of_nil (test : α → Except ε Bool)
    (finish : List α → Except ε (List α × List α)) {skipped : Nat} {list : List α}
    (hnone : list.drop skipped = []) :
    gallopFrom test finish skipped list = finish list := by
  rw [gallopFrom]
  split
  · rfl
  · next hfound => rw [hnone] at hfound; cases hfound

section

variable {test : α → Except ε Bool} {finish : List α → Except ε (List α × List α)}

theorem gallopFrom_outcome {list : List α} (h : Answered failure test list)
    (hfinish : ∀ block, block ⊆ list → Splits failure block (finish block)) (skipped : Nat) :
    Splits failure list (gallopFrom test finish skipped list) := by
  induction hlength : list.length using Nat.strongRecOn generalizing list skipped with
  | ind length ih =>
      cases hfound : list.drop skipped with
      | nil =>
          rw [gallopFrom_of_nil test finish hfound]
          exact hfinish list (List.Subset.refl _)
      | cons probe rest =>
          have hlist : list.take skipped ++ probe :: rest = list := by
            rw [← hfound]
            exact List.take_append_drop ..
          have hsum := congrArg List.length hlist
          simp only [List.length_append, List.length_cons] at hsum
          have hsubset : rest ⊆ list := hlist ▸ fun x hx => by simp [hx]
          rw [gallopFrom_of_drop test finish hfound]
          refine (h probe (hlist ▸ by simp)).bind fun holds _ => ?_
          cases holds with
          | true =>
              have hrest : Splits failure rest (gallopFrom test finish (2 * skipped + 1) rest) :=
                ih _ (by omega) (h.subset hsubset)
                  (fun block hblock => hfinish block (List.Subset.trans hblock hsubset)) _ rfl
              refine hrest.bind fun split hsplit => EndsIn.pure ?_
              rw [← hsplit] at hlist
              simpa using hlist
          | false =>
              refine (hfinish _ (List.take_subset ..)).bind fun split hsplit => EndsIn.pure ?_
              rw [← hsplit] at hlist
              simpa using hlist

theorem gallop_outcome {list : List α} (h : Answered failure test list)
    (hfinish : ∀ block, block ⊆ list → Splits failure block (finish block)) :
    Splits failure list (gallop test finish list) := by
  cases list with
  | nil => exact EndsIn.pure rfl
  | cons first rest =>
      have hsubset : rest ⊆ first :: rest := List.subset_cons_self ..
      refine (h first (List.mem_cons_self ..)).bind fun holds _ => ?_
      cases holds with
      | true =>
          have hrest : Splits failure rest (gallopFrom test finish 0 rest) :=
            gallopFrom_outcome (h.subset hsubset)
              (fun block hblock => hfinish block (List.Subset.trans hblock hsubset)) 0
          refine hrest.bind fun split hsplit => EndsIn.pure ?_
          rw [← hsplit]
          rfl
      | false => exact EndsIn.pure rfl

theorem gallopUp_outcome {list : List α} (h : Answered failure test list) :
    Splits failure list (gallopUp test list) :=
  gallop_outcome h fun _ hblock => bisect_outcome (h.subset hblock)

theorem gallopDown_outcome {backwards : List α} (h : Answered failure test backwards) :
    Splits failure backwards (gallopDown test backwards) := by
  refine gallop_outcome h.fails fun block hblock => ?_
  have hreverse : Answered failure test block.reverse :=
    h.subset (fun x hx => hblock (List.mem_reverse.mp hx))
  refine (bisect_outcome hreverse).bind fun split hsplit => EndsIn.pure ?_
  have hblock := congrArg List.reverse hsplit
  simpa using hblock

end

/-! ## Merging -/

namespace Merging

/-- The elements of a merge, moved or not. -/
def items (m : Merging α) : List α := m.kept ++ (m.other ++ m.merged)

variable {m : Merging α}

theorem items_takeKept : m.takeKept.items.Perm m.items := by
  unfold takeKept
  split
  · exact List.Perm.refl _
  · next k kept hkept =>
      rw [items, items, hkept]
      calc kept ++ (m.other ++ k :: m.merged)
          _ = (kept ++ m.other) ++ k :: m.merged := (List.append_assoc ..).symm
          List.Perm _ (k :: ((kept ++ m.other) ++ m.merged)) := List.perm_middle
          _ = k :: kept ++ (m.other ++ m.merged) := by simp

theorem items_takeOther : m.takeOther.items.Perm m.items := by
  unfold takeOther
  split
  · exact List.Perm.refl _
  · next o other hother =>
      rw [items, items, hother]
      exact (List.perm_middle).append_left m.kept

theorem items_finish : m.finish.Perm m.items := by
  have hall : (m.merged.reverse ++ m.kept ++ m.other).Perm m.items := by
    have hmerged : (m.merged.reverse ++ (m.kept ++ m.other)).Perm
        ((m.kept ++ m.other) ++ m.merged) :=
      ((m.merged.reverse_perm).append_right _).trans List.perm_append_comm
    simpa [items] using hmerged
  unfold finish
  split
  · next last hkept =>
      rw [hkept] at hall
      have hswap : (m.other ++ [last]).Perm ([last] ++ m.other) := List.perm_append_comm
      refine List.Perm.trans ?_ hall
      simpa using hswap.append_left m.merged.reverse
  · exact hall

theorem heads_mem {k o : α} (h : m.heads? = some (k, o)) : k ∈ m.kept ∧ o ∈ m.other := by
  unfold heads? at h
  split at h
  · next hkept hother =>
      obtain ⟨rfl, rfl⟩ := Prod.mk.inj (Option.some.inj h)
      rw [hkept, hother]
      exact ⟨by simp, by simp⟩
  · cases h

end Merging

/-- The questions of a direction about elements of a list are refused only with
errors of a kind, and its searches split what they are given. -/
structure Direction.Sound (failure : ε → Prop) (list : List α) (d : Direction ε α) : Prop where
  otherFirst : ∀ k ∈ list, ∀ o ∈ list, EndsIn (fun _ => True) failure (d.otherFirst k o)
  keptStretch : ∀ o ∈ list, ∀ run, run ⊆ list → Splits failure run (d.keptStretch o run)
  otherStretch : ∀ k ∈ list, ∀ run, run ⊆ list → Splits failure run (d.otherStretch k run)

section

variable {before : α → α → Except ε Bool} {list : List α}

theorem Direction.sound_up (h : Compared failure before list) :
    (Direction.up before).Sound failure list where
  otherFirst k hk o ho := h o ho k hk
  keptStretch _ ho _ hrun := gallopUp_outcome ((h.right ho).subset hrun).fails
  otherStretch _ hk _ hrun := gallopUp_outcome ((h.left hk).subset hrun)

theorem Direction.sound_down (h : Compared failure before list) :
    (Direction.down before).Sound failure list where
  otherFirst k hk o ho := h k hk o ho
  keptStretch _ ho _ hrun := gallopDown_outcome ((h.left ho).subset hrun)
  otherStretch _ hk _ hrun := gallopDown_outcome ((h.right hk).subset hrun).fails

end

namespace Merging

variable {d : Direction ε α} {list : List α} {m : Merging α}

/-- The heads of the runs are elements of the list that is merged. -/
theorem heads_mem_list (hitems : m.items.Perm list) {k o : α} (h : m.heads? = some (k, o)) :
    k ∈ list ∧ o ∈ list := by
  obtain ⟨hk, ho⟩ := heads_mem h
  refine ⟨hitems.subset ?_, hitems.subset ?_⟩
  · exact List.mem_append_left _ hk
  · exact List.mem_append_right _ (List.mem_append_left _ ho)

theorem alternate_outcome (hd : d.Sound failure list) (threshold steps keptWins otherWins : Nat)
    (hitems : m.items.Perm list) :
    EndsIn (fun next => next.items.Perm list) failure
      (m.alternate d threshold steps keptWins otherWins) := by
  induction steps generalizing m keptWins otherWins with
  | zero => exact hitems
  | succ steps ih =>
      unfold alternate
      cases hheads : m.heads? with
      | none => exact hitems
      | some heads =>
          obtain ⟨hk, ho⟩ := heads_mem_list hitems hheads
          dsimp only
          split
          · exact hitems
          · refine (hd.otherFirst _ hk _ ho).bind fun first _ => ?_
            cases first with
            | true => exact ih _ _ (items_takeOther.trans hitems)
            | false => exact ih _ _ (items_takeKept.trans hitems)

/-- A stretch of the kept run that is moved is not lost. -/
theorem items_moveKept {stretch kept : List α} (hsplit : stretch ++ kept = m.kept) :
    (items { m with kept, merged := stretch.reverse ++ m.merged }).Perm m.items := by
  rw [items, items, ← hsplit]
  calc kept ++ (m.other ++ (stretch.reverse ++ m.merged))
      _ = (kept ++ m.other) ++ (stretch.reverse ++ m.merged) := (List.append_assoc ..).symm
      List.Perm _ ((stretch.reverse ++ m.merged) ++ (kept ++ m.other)) := List.perm_append_comm
      _ = stretch.reverse ++ (m.merged ++ (kept ++ m.other)) := List.append_assoc ..
      List.Perm _ (stretch ++ ((kept ++ m.other) ++ m.merged)) :=
        stretch.reverse_perm.append List.perm_append_comm
      _ = stretch ++ kept ++ (m.other ++ m.merged) := by simp

theorem items_moveOther {stretch other : List α} (hsplit : stretch ++ other = m.other) :
    (items { m with other, merged := stretch.reverse ++ m.merged }).Perm m.items := by
  rw [items, items, ← hsplit]
  refine List.Perm.append_left m.kept ?_
  calc other ++ (stretch.reverse ++ m.merged)
      _ = (other ++ stretch.reverse) ++ m.merged := (List.append_assoc ..).symm
      List.Perm _ ((stretch ++ other) ++ m.merged) :=
        (List.perm_append_comm.trans (stretch.reverse_perm.append_right other)).append_right _

theorem gallopKept_outcome (hd : d.Sound failure list) (hitems : m.items.Perm list) :
    EndsIn (fun moved => moved.2.items.Perm list) failure (m.gallopKept d) := by
  unfold gallopKept
  cases hheads : m.heads? with
  | none => exact hitems
  | some heads =>
      obtain ⟨-, ho⟩ := heads_mem_list hitems hheads
      have hkept : m.kept ⊆ list := fun x hx => hitems.subset (List.mem_append_left _ hx)
      refine (hd.keptStretch _ ho _ hkept).bind fun split hsplit => EndsIn.pure ?_
      have hmoved := (items_moveKept hsplit).trans hitems
      dsimp only
      split
      · exact hmoved
      · exact items_takeOther.trans hmoved

theorem gallopOther_outcome (hd : d.Sound failure list) (hitems : m.items.Perm list) :
    EndsIn (fun moved => moved.2.items.Perm list) failure (m.gallopOther d) := by
  unfold gallopOther
  cases hheads : m.heads? with
  | none => exact hitems
  | some heads =>
      obtain ⟨hk, -⟩ := heads_mem_list hitems hheads
      have hother : m.other ⊆ list :=
        fun x hx => hitems.subset (List.mem_append_right _ (List.mem_append_left _ hx))
      refine (hd.otherStretch _ hk _ hother).bind fun split hsplit => EndsIn.pure ?_
      have hmoved := (items_moveOther hsplit).trans hitems
      dsimp only
      split
      · exact hmoved
      · exact items_takeKept.trans hmoved

theorem gallopBoth_outcome (hd : d.Sound failure list) (hitems : m.items.Perm list) :
    EndsIn (fun moved => moved.2.2.items.Perm list) failure (m.gallopBoth d) := by
  unfold gallopBoth
  split
  · refine (gallopKept_outcome hd hitems).bind fun first hfirst => ?_
    refine (gallopOther_outcome hd hfirst).bind fun second hsecond => ?_
    exact hsecond
  · refine (gallopOther_outcome hd hitems).bind fun first hfirst => ?_
    refine (gallopKept_outcome hd hfirst).bind fun second hsecond => ?_
    exact hsecond

theorem gallopRounds_outcome (hd : d.Sound failure list) (steps threshold : Nat)
    (hitems : m.items.Perm list) :
    EndsIn (fun moved => moved.2.items.Perm list) failure (m.gallopRounds d steps threshold) := by
  induction steps generalizing m threshold with
  | zero => exact hitems
  | succ steps ih =>
      refine (gallopBoth_outcome hd hitems).bind fun moved hmoved => ?_
      obtain ⟨kept, other, next⟩ := moved
      dsimp only
      split
      · exact hmoved
      · split
        · exact ih _ hmoved
        · exact hmoved

theorem run_outcome (hd : d.Sound failure list) (size steps threshold : Nat)
    (hitems : m.items.Perm list) :
    EndsIn (fun merged => merged.2.Perm list) failure (m.run d size steps threshold) := by
  induction steps generalizing m threshold with
  | zero => exact items_finish.trans hitems
  | succ steps ih =>
      refine (alternate_outcome hd threshold size 0 0 hitems).bind fun next hnext => ?_
      split
      · exact items_finish.trans hnext
      · refine (gallopRounds_outcome hd size threshold hnext).bind fun moved hmoved => ?_
        exact ih _ hmoved

theorem all_outcome {kept other : List α} (hd : d.Sound failure list)
    (hitems : (kept ++ other).Perm list) (threshold : Nat) :
    EndsIn (fun merged => merged.2.Perm list) failure (Merging.all d threshold kept other) := by
  have hstart : (items { kept, other }).Perm list := by
    simpa [items] using hitems
  exact run_outcome hd _ _ _ (items_takeOther.trans hstart)

end Merging

section

variable {before : α → α → Except ε Bool}

/-- Merging two runs gives all elements of both. -/
theorem mergeRuns_outcome {lower upper : List α} (h : Compared failure before (lower ++ upper))
    (threshold : Nat) :
    EndsIn (fun merged => merged.2.Perm (lower ++ upper)) failure
      (mergeRuns before threshold lower upper) := by
  cases upper with
  | nil => exact EndsIn.pure (by simp)
  | cons first rest =>
      have hfirst : Answered failure (before first) lower :=
        (h.right (by simp)).subset (List.subset_append_left ..)
      refine (gallopUp_outcome hfirst.fails).bind fun split hbottom => ?_
      obtain ⟨bottom, middle⟩ := split
      simp only at hbottom
      dsimp only
      split
      · next hnone =>
          have hempty : middle = [] := List.reverse_eq_nil_iff.mp hnone
          subst hempty
          refine EndsIn.pure ?_
          rw [← hbottom, List.append_nil]
      · next last others hlast =>
          have hmiddle : last ∈ middle :=
            List.mem_reverse.mp (hlast ▸ List.mem_cons_self ..)
          have hlower : middle ⊆ lower := hbottom ▸ List.subset_append_right ..
          have hmem : last ∈ lower ++ first :: rest :=
            List.mem_append_left _ (hlower hmiddle)
          have htop : Answered failure (before · last) (first :: rest).reverse :=
            (h.left hmem).subset fun x hx => List.mem_append_right _ (List.mem_reverse.mp hx)
          refine (gallopDown_outcome htop).bind fun split hsplit => ?_
          obtain ⟨top, left⟩ := split
          have hupper : left.reverse ++ top.reverse = first :: rest := by
            have hreverse := congrArg List.reverse hsplit
            simpa using hreverse
          have hall : bottom ++ (middle ++ left.reverse) ++ top.reverse =
              lower ++ first :: rest := by
            rw [← hbottom, ← hupper]
            simp
          have hsubset : middle ++ left.reverse ⊆ lower ++ first :: rest := by
            intro x hx
            rw [← hall]
            exact List.mem_append_left _ (List.mem_append_right _ hx)
          have hcompared := h.subset hsubset
          dsimp only
          split
          · next hleft =>
              refine EndsIn.pure ?_
              rw [← hall, List.isEmpty_iff.mp hleft]
              simp
          · split
            · refine (Merging.all_outcome (Direction.sound_up hcompared)
                (List.Perm.refl _) threshold).bind fun merged hmerged => EndsIn.pure ?_
              rw [← hall]
              exact (hmerged.append_left bottom).append_right _
            · have hitems : (left ++ middle.reverse).Perm (middle ++ left.reverse) :=
                (left.reverse_perm.symm.append middle.reverse_perm).trans List.perm_append_comm
              refine (Merging.all_outcome (Direction.sound_down hcompared)
                hitems threshold).bind fun merged hmerged => EndsIn.pure ?_
              rw [← hall]
              exact ((merged.2.reverse_perm.trans hmerged).append_left bottom).append_right _

/-! ## Runs -/

theorem takeRun_outcome {follows : α → α → Except ε Bool} {last : α} {list : List α}
    (h : Compared failure follows (last :: list)) :
    Splits failure list (takeRun follows last list) := by
  induction list generalizing last with
  | nil => exact EndsIn.pure rfl
  | cons x rest ih =>
      refine (h last (by simp) x (by simp)).bind fun holds _ => ?_
      cases holds with
      | true =>
          have hrest : Compared failure follows (x :: rest) :=
            h.subset (List.subset_cons_self ..)
          refine (ih hrest).bind fun split hsplit => EndsIn.pure ?_
          rw [← hsplit]
          rfl
      | false => exact EndsIn.pure rfl

/-- The first run and the rest of the list have its elements. -/
theorem firstRun_outcome {list : List α} (h : Compared failure before list) :
    EndsIn (fun split => (split.1 ++ split.2).Perm list) failure (firstRun before list) := by
  unfold firstRun
  split
  · next x y rest =>
      have hrest : Compared failure before (y :: rest) := h.subset (List.subset_cons_self ..)
      refine (h y (by simp) x (by simp)).bind fun down _ => ?_
      cases down with
      | true =>
          have hturned : Compared failure (fun last next => before next last) (y :: rest) :=
            fun first hfirst next hnext => hrest next hnext first hfirst
          refine (takeRun_outcome hturned).bind fun split hsplit => EndsIn.pure ?_
          rw [← hsplit]
          exact (List.reverse_perm (x :: y :: split.1)).append_right split.2
      | false =>
          have hup : Compared failure (fun last next => (before next last).map (!·))
              (y :: rest) :=
            fun first hfirst next hnext => (hrest next hnext first hfirst).map fun _ _ => trivial
          refine (takeRun_outcome hup).bind fun split hsplit => EndsIn.pure ?_
          rw [← hsplit]
          exact List.Perm.refl _
  · exact EndsIn.pure (by simp)

/-- Inserting elements one after the other adds them all. -/
theorem foldlM_insertBy_outcome {more sorted : List α}
    (h : Compared failure before (sorted ++ more)) :
    EndsIn (fun result => result.Perm (sorted ++ more)) failure
      (more.foldlM (fun sorted x => insertBy before x sorted) sorted) := by
  induction more generalizing sorted with
  | nil => exact EndsIn.pure (by simp)
  | cons x rest ih =>
      have hinsert : Compared failure before (x :: sorted) := h.subset fun y hy => by
        rcases List.mem_cons.mp hy with rfl | hold
        · simp
        · simp [hold]
      refine (insertBy_outcome hinsert).bind fun next hnext => ?_
      have hall : (next ++ rest).Perm (sorted ++ x :: rest) :=
        (hnext.append_right rest).trans List.perm_middle.symm
      exact (ih (h.subset hall.subset)).mono fun result hresult => hresult.trans hall

theorem filledRun_outcome {list : List α} (h : Compared failure before list) (least : Nat) :
    EndsIn (fun split => (split.1 ++ split.2).Perm list) failure
      (filledRun before least list) := by
  refine (firstRun_outcome h).bind fun split hsplit => ?_
  obtain ⟨run, others⟩ := split
  dsimp only at hsplit ⊢
  have hparts : run ++ others =
      run ++ others.take (least - run.length) ++ others.drop (least - run.length) := by
    rw [List.append_assoc, List.take_append_drop]
  have hfill : Compared failure before (run ++ others.take (least - run.length)) := by
    refine h.subset fun x hx => hsplit.subset ?_
    rw [hparts]
    exact List.mem_append_left _ hx
  refine (foldlM_insertBy_outcome hfill).bind fun filled hfilled => EndsIn.pure ?_
  refine List.Perm.trans (hfilled.append_right _) ?_
  rw [← hparts]
  exact hsplit

/-- The elements of runs, the uppermost of which comes first. -/
def runItems (runs : List (Run α)) : List α := (runs.map (·.items)).flatten

theorem collapse_outcome (limit threshold : Nat) {top : Run α} {runs : List (Run α)}
    (h : Compared failure before (top.items ++ runItems runs)) :
    EndsIn (fun collapsed => (collapsed.2.1.items ++ runItems collapsed.2.2).Perm
      (top.items ++ runItems runs)) failure (collapse before limit threshold top runs) := by
  induction runs generalizing top threshold with
  | nil => exact EndsIn.pure (List.Perm.refl _)
  | cons below rest ih =>
      unfold collapse
      split
      · have hall : (below.items ++ top.items ++ runItems rest).Perm
            (top.items ++ runItems (below :: rest)) := by
          have hswap : (below.items ++ top.items).Perm (top.items ++ below.items) :=
            List.perm_append_comm
          simpa [runItems] using hswap.append_right (runItems rest)
        have hruns : Compared failure before (below.items ++ top.items) :=
          h.subset fun x hx => hall.subset (List.mem_append_left _ hx)
        refine (mergeRuns_outcome hruns threshold).bind fun merged hmerged => ?_
        have hnext := (hmerged.append_right (runItems rest)).trans hall
        exact (ih _ (h.subset hnext.subset)).mono fun _ hresult => hresult.trans hnext
      · exact EndsIn.pure (List.Perm.refl _)

theorem collapseAll_outcome {runs : List (List α)} (threshold : Nat)
    (h : Compared failure before runs.flatten) :
    EndsIn (fun sorted => sorted.Perm runs.flatten) failure
      (collapseAll before threshold runs) := by
  induction hlength : runs.length using Nat.strongRecOn generalizing runs threshold with
  | ind length ih =>
      match runs with
      | [] =>
          rw [collapseAll]
          exact EndsIn.pure (List.Perm.refl _)
      | [run] =>
          rw [collapseAll]
          exact EndsIn.pure (by simp)
      | [top, below] =>
          have hall : (below ++ top).Perm [top, below].flatten := by
            simpa using List.perm_append_comm
          rw [collapseAll]
          refine (mergeRuns_outcome (h.subset hall.subset) threshold).map fun merged hmerged => ?_
          exact hmerged.trans hall
      | top :: middle :: below :: rest =>
          rw [collapseAll]
          split
          · have hmerge : (below ++ middle).Perm (middle ++ below) := List.perm_append_comm
            have hlower : Compared failure before (below ++ middle) := by
              refine h.subset fun x hx => ?_
              rcases List.mem_append.mp hx with hbelow | hmiddle
              · simp [hbelow]
              · simp [hmiddle]
            refine (mergeRuns_outcome hlower threshold).bind fun merged hmerged => ?_
            have hall : (top :: merged.2 :: rest).flatten.Perm
                (top :: middle :: below :: rest).flatten := by
              simpa using ((hmerged.trans hmerge).append_right rest.flatten).append_left top
            refine (ih _ ?_ merged.1 (h.subset hall.subset) rfl).mono
              fun sorted hsorted => hsorted.trans hall
            rw [← hlength]
            simp
          · have hmerge : (middle ++ top).Perm (top ++ middle) := List.perm_append_comm
            have hupper : Compared failure before (middle ++ top) := by
              refine h.subset fun x hx => ?_
              rcases List.mem_append.mp hx with hmiddle | htop
              · simp [hmiddle]
              · simp [htop]
            refine (mergeRuns_outcome hupper threshold).bind fun merged hmerged => ?_
            have hall : (merged.2 :: below :: rest).flatten.Perm
                (top :: middle :: below :: rest).flatten := by
              simpa using (hmerged.trans hmerge).append_right (below ++ rest.flatten)
            refine (ih _ ?_ merged.1 (h.subset hall.subset) rfl).mono
              fun sorted hsorted => hsorted.trans hall
            rw [← hlength]
            simp

theorem sortRuns_outcome (total steps threshold : Nat) {runs : List (Run α)} {list : List α}
    (h : Compared failure before (list ++ runItems runs)) :
    EndsIn (fun sorted => sorted.Perm (list ++ runItems runs)) failure
      (sortRuns before total steps threshold runs list) := by
  induction steps generalizing threshold runs list with
  | zero => exact collapseAll_outcome threshold h
  | succ steps ih =>
      unfold sortRuns
      split
      · next hempty =>
          rw [List.isEmpty_iff.mp hempty] at h ⊢
          exact collapseAll_outcome threshold h
      · refine (filledRun_outcome (h.subset (List.subset_append_left ..)) _).bind
          fun split hsplit => ?_
        obtain ⟨items, rest⟩ := split
        dsimp only at hsplit ⊢
        have hall : (rest ++ (items ++ runItems runs)).Perm (list ++ runItems runs) := by
          have hswap : (rest ++ items).Perm list := List.perm_append_comm.trans hsplit
          simpa using hswap.append_right (runItems runs)
        cases runs with
        | nil =>
            refine (ih threshold (h.subset ?_)).mono fun sorted hsorted => ?_
            · exact fun x hx => hall.subset (by simpa [runItems] using hx)
            · exact hsorted.trans (by simpa [runItems] using hall)
        | cons top below =>
            have hruns : Compared failure before (top.items ++ runItems below) := by
              refine h.subset fun x hx => List.mem_append_right _ ?_
              simpa [runItems] using hx
            refine (collapse_outcome _ threshold hruns).bind fun collapsed hcollapsed => ?_
            obtain ⟨threshold, next, lower⟩ := collapsed
            dsimp only at hcollapsed ⊢
            have hnext : (rest ++ (items ++ (next.items ++ runItems lower))).Perm
                (list ++ runItems (top :: below)) :=
              ((hcollapsed.append_left items).append_left rest).trans
                (by simpa [runItems] using hall)
            refine (ih threshold (h.subset ?_)).mono fun sorted hsorted => ?_
            · exact fun x hx => hnext.subset (by simpa [runItems] using hx)
            · exact hsorted.trans (by simpa [runItems] using hnext)

/-- **Sorting.**  A sort gives the elements of the list in another order, unless a
question about two of them is refused. -/
theorem sortBy_outcome {list : List α} (h : Compared failure before list) :
    EndsIn (fun sorted => sorted.Perm list) failure (sortBy before list) := by
  have hempty : list ++ runItems ([] : List (Run α)) = list := List.append_nil list
  have hsorted : EndsIn (fun sorted => sorted.Perm (list ++ runItems ([] : List (Run α))))
      failure (sortBy before list) :=
    sortRuns_outcome list.length list.length Merging.payingStretch (hempty.symm ▸ h)
  rw [hempty] at hsorted
  exact hsorted

theorem sortDownBy_outcome {list : List α} (h : Compared failure before list) :
    EndsIn (fun sorted => sorted.Perm list) failure (sortDownBy before list) := by
  have hreverse : Compared failure before list.reverse :=
    h.subset fun x hx => List.mem_reverse.mp hx
  refine (sortBy_outcome hreverse).bind fun sorted hsorted => EndsIn.pure ?_
  exact (sorted.reverse_perm.trans hsorted).trans list.reverse_perm

end

end ManifestLint.Sorting
