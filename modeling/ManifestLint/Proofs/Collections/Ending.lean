/-!
# What computations end with

A computation that may be refused ends with a value or with an error.  `EndsIn` says
of which kind the value is, and of which kind the error.
-/

namespace ManifestLint

variable {α β ε : Type}

/-- What a computation ends with: a value of some kind, or an error of some kind. -/
def EndsIn (result : α → Prop) (failure : ε → Prop) : Except ε α → Prop
  | .ok value => result value
  | .error error => failure error

namespace EndsIn

variable {first result : α → Prop} {last : β → Prop} {failure weaker : ε → Prop}
  {computed : Except ε α}

theorem mono (h : EndsIn first failure computed)
    (hresult : ∀ value, first value → result value) : EndsIn result failure computed := by
  cases computed with
  | ok value => exact hresult value h
  | error error => exact h

theorem weaken (h : EndsIn result failure computed)
    (hfailure : ∀ error, failure error → weaker error) : EndsIn result weaker computed := by
  cases computed with
  | ok value => exact h
  | error error => exact hfailure error h

theorem pure {value : α} (hvalue : result value) :
    EndsIn result failure (Pure.pure value : Except ε α) := hvalue

theorem bind {next : α → Except ε β} (h : EndsIn first failure computed)
    (hnext : ∀ value, first value → EndsIn last failure (next value)) :
    EndsIn last failure (computed >>= next) := by
  cases computed with
  | ok value => exact hnext value h
  | error error => exact h

theorem map {f : α → β} (h : EndsIn first failure computed)
    (hf : ∀ value, first value → last (f value)) : EndsIn last failure (computed.map f) := by
  cases computed with
  | ok value => exact hf value h
  | error error => exact h

theorem of_ok {value : α} (h : EndsIn result failure computed) (hok : computed = .ok value) :
    result value := by
  subst hok
  exact h

theorem of_error {error : ε} (h : EndsIn result failure computed)
    (herror : computed = .error error) : failure error := by
  subst herror
  exact h

end EndsIn

theorem eq_ok_of_toOption {computed : Except ε α} {value : α} (h : computed.toOption = some value) :
    computed = .ok value := by
  cases computed with
  | ok other => rw [Option.some.inj h]
  | error error => cases h

/-- The error that a computation ends with, if it ends with one. -/
def error? : Except ε α → Option ε
  | .ok _ => none
  | .error error => some error

theorem eq_error_of_error? {computed : Except ε α} {error : ε} (h : error? computed = some error) :
    computed = .error error := by
  cases computed with
  | ok value => cases h
  | error other => rw [Option.some.inj h]

section

variable {failure : ε → Prop} {test : α → Except ε Bool} {kept : α → Prop}

theorem filterAuxM_endsIn {list acc : List α}
    (htest : ∀ x ∈ list, EndsIn (fun holds => holds = true ↔ kept x) failure (test x)) :
    EndsIn (fun result => ∀ x, x ∈ result ↔ x ∈ acc ∨ (x ∈ list ∧ kept x)) failure
      (list.filterAuxM test acc) := by
  induction list generalizing acc with
  | nil => exact EndsIn.pure fun x => by simp
  | cons first rest ih =>
      refine (htest first (List.mem_cons_self ..)).bind fun holds hholds => ?_
      refine (ih fun x hx => htest x (List.mem_cons_of_mem _ hx)).mono fun result hresult x => ?_
      rw [hresult]
      cases holds with
      | true =>
          have hfirst : kept first := hholds.mp rfl
          simp only [cond_true, List.mem_cons]
          constructor
          · rintro ((rfl | hacc) | hrest)
            · exact .inr ⟨.inl rfl, hfirst⟩
            · exact .inl hacc
            · exact .inr ⟨.inr hrest.1, hrest.2⟩
          · rintro (hacc | ⟨rfl | hrest, hkept⟩)
            · exact .inl (.inr hacc)
            · exact .inl (.inl rfl)
            · exact .inr ⟨hrest, hkept⟩
      | false =>
          have hfirst : ¬ kept first := fun hkept => Bool.false_ne_true (hholds.mpr hkept)
          simp only [cond_false, List.mem_cons]
          constructor
          · rintro (hacc | hrest)
            · exact .inl hacc
            · exact .inr ⟨.inr hrest.1, hrest.2⟩
          · rintro (hacc | ⟨rfl | hrest, hkept⟩)
            · exact .inl hacc
            · exact absurd hkept hfirst
            · exact .inr ⟨hrest, hkept⟩

/-- Filtering a list keeps the elements of which the test holds. -/
theorem filterM_endsIn {list : List α}
    (htest : ∀ x ∈ list, EndsIn (fun holds => holds = true ↔ kept x) failure (test x)) :
    EndsIn (fun result => ∀ x, x ∈ result ↔ x ∈ list ∧ kept x) failure
      (list.filterM test) := by
  refine (filterAuxM_endsIn htest).bind fun result hresult => EndsIn.pure fun x => ?_
  simp [hresult]

/-- Filtering with a test that is not refused is filtering. -/
theorem filterM_eq_filter {p : α → Bool} {list : List α} (h : ∀ x ∈ list, test x = .ok (p x)) :
    list.filterM test = .ok (list.filter p) := by
  have haux : ∀ kept : List α, list.filterAuxM test kept =
      .ok ((list.filter p).reverse ++ kept) := by
    induction list with
    | nil => exact fun kept => rfl
    | cons x rest ih =>
        intro kept
        obtain ⟨hx, hrest⟩ := List.forall_mem_cons.mp h
        rw [List.filterAuxM, hx]
        change rest.filterAuxM test (cond (p x) (x :: kept) kept) = _
        cases hp : p x with
        | true => simpa [hp] using ih hrest (x :: kept)
        | false => simpa [hp] using ih hrest kept
  rw [List.filterM, haux []]
  simp [bind, Except.bind, pure, Except.pure]

end

/-! ## Gathering -/

/-- The values of what has ended, or the first error. -/
def gathered : List (Except ε α) → Except ε (List α)
  | [] => .ok []
  | .ok value :: rest => (gathered rest).map (value :: ·)
  | .error error :: _ => .error error

@[simp] theorem gathered_map_ok (values : List α) :
    gathered (values.map (.ok : α → Except ε α)) = .ok values := by
  induction values with
  | nil => rfl
  | cons value rest ih =>
      rw [List.map_cons, gathered, ih]
      rfl

theorem gathered_eq_ok {ended : List (Except ε α)} {values : List α}
    (h : gathered ended = .ok values) : ended = values.map .ok := by
  induction ended generalizing values with
  | nil => cases h; rfl
  | cons first rest ih =>
      cases first with
      | error error => cases h
      | ok value =>
          rw [gathered] at h
          cases hrest : gathered rest with
          | error error =>
              rw [hrest] at h
              cases h
          | ok others =>
              rw [hrest] at h
              cases h
              rw [List.map_cons, ih hrest]

/-- An error is one of those in the list. -/
theorem mem_of_gathered_error {ended : List (Except ε α)} {error : ε}
    (h : gathered ended = .error error) : .error error ∈ ended := by
  induction ended with
  | nil => cases h
  | cons first rest ih =>
      cases first with
      | error other =>
          cases h
          exact List.mem_cons_self ..
      | ok value =>
          rw [gathered] at h
          cases hrest : gathered rest with
          | ok others =>
              rw [hrest] at h
              cases h
          | error other =>
              rw [hrest] at h
              cases h
              exact List.mem_cons_of_mem _ (ih hrest)

theorem gathered_append (early late : List (Except ε α)) :
    gathered (early ++ late) =
      match gathered early with
      | .ok values => (gathered late).map (values ++ ·)
      | .error error => .error error := by
  induction early with
  | nil => cases hlate : gathered late <;> simp [gathered, hlate, Except.map]
  | cons first rest ih =>
      cases first with
      | error error => rfl
      | ok value =>
          rw [List.cons_append, gathered, gathered, ih]
          cases gathered rest with
          | error error => rfl
          | ok values => cases gathered late <;> rfl

end ManifestLint
