import ManifestLint.Proofs.Json.Compact

/-!
# Following the reader

The reader takes characters and whole strings off the front of a text.  A property of what is left
that both of these keep is therefore kept by every value that is read, well formed or not; and what
holds of every string that is taken off holds of the keys of an object.

* `Follows`: properties that follow the reader.
* `number_skips`, `Follows.skip`, `Follows.scalar`: numbers, blanks and names.
* `Follows.keeps`: values, items and members, by induction on the reader's steps.
* `Follows.decodeChars`: whole documents.
-/

namespace ManifestLint.Json

/-- If a computation with a follow-up succeeds, then so do both. -/
theorem exists_of_bind_eq_ok {ε α β : Type} {first : Except ε α} {next : α → Except ε β} {b : β}
    (h : (first >>= next) = .ok b) : ∃ a, first = .ok a ∧ next a = .ok b := by
  cases first with
  | error _ => cases h
  | ok a => exact ⟨a, rfl, h⟩

/-! ## Properties of what is left -/

/-- A property of what is left of a text follows the reader, with a property of strings: it is kept
by a character that neither starts a string nor an escape, and by a string that is read. -/
structure Follows (left : List Char → Prop) (key : String → Prop) : Prop where
  drop : ∀ {c : Char} {rest : List Char}, left (c :: rest) → c ≠ '"' → c ≠ '\\' → left rest
  string : ∀ {steps start : Nat} {cursor next : Cursor} {rest : List Char} {text : String},
    cursor.rest = '"' :: rest → left cursor.rest →
      stringBody steps start [] (cursor.skip 1) = .ok (text, next) → left next.rest ∧ key text

/-- A property holds of the keys of a value, if it has any. -/
def KeysAre (key : String → Prop) : Json → Prop
  | .object members => ∀ member ∈ members, key member.1
  | _ => True

/-- Characters that neither start a string nor an escape. -/
def Bare (text : List Char) : Prop := ∀ c ∈ text, c ≠ '"' ∧ c ≠ '\\'

/-! ## Numbers -/

theorem bare_of_numeric {text : List Char} (h : ∀ c ∈ text, isNumeric c = true) : Bare text := by
  intro c hc
  have hnumeric := h c hc
  constructor
  all_goals
    rintro rfl
    cases hnumeric

theorem numeric_takeWhile (text : List Char) :
    ∀ c ∈ text.take (text.takeWhile Char.isDigit).length, isNumeric c = true := by
  intro c hc
  rw [← List.prefix_iff_eq_take.mp (List.takeWhile_prefix _)] at hc
  have hdigit := List.all_eq_true.mp List.all_takeWhile c hc
  simp [isNumeric, hdigit]

theorem numeric_wholeLength (text : List Char) :
    ∀ c ∈ text.take (wholeLength text), isNumeric c = true := by
  unfold wholeLength
  split
  · simp [isNumeric]
  · exact numeric_takeWhile text

theorem numeric_fractionLength (text : List Char) :
    ∀ c ∈ text.take (fractionLength text), isNumeric c = true := by
  unfold fractionLength
  split
  · dsimp only
    split
    · simp
    · rw [List.take_succ_cons]
      exact List.forall_mem_cons.mpr ⟨rfl, numeric_takeWhile _⟩
  · simp

/-- An exponent is its letter, as much of a sign as there is, and digits. -/
theorem numeric_signed {c : Char} {rest : List Char} {sign : Nat} (hc : isNumeric c = true)
    (hsign : ∀ d ∈ rest.take sign, isNumeric d = true) :
    let digits := ((rest.drop sign).takeWhile Char.isDigit).length
    ∀ d ∈ (c :: rest).take (if digits = 0 then 0 else 1 + sign + digits), isNumeric d = true := by
  dsimp only
  split
  · simp
  · rw [Nat.add_assoc, Nat.add_comm, List.take_succ_cons, List.take_add]
    exact List.forall_mem_cons.mpr ⟨hc, List.forall_mem_append.mpr ⟨hsign, numeric_takeWhile _⟩⟩

theorem numeric_exponentLength (text : List Char) :
    ∀ c ∈ text.take (exponentLength text), isNumeric c = true := by
  unfold exponentLength
  split
  · next c rest =>
      split
      · next hletter =>
          have hc : isNumeric c = true := by rcases hletter with rfl | rfl <;> rfl
          dsimp only
          split
          · exact numeric_signed hc (by simp [isNumeric])
          · exact numeric_signed hc (by simp [isNumeric])
          · exact numeric_signed hc (by simp)
      · simp
  · simp

/-- A number without its sign is its whole part, places and a power of ten. -/
theorem numeric_parts (text : List Char) :
    let whole := wholeLength text
    let places := fractionLength (text.drop whole)
    let power := exponentLength (text.drop (whole + places))
    ∀ c ∈ text.take (whole + places + power), isNumeric c = true := by
  dsimp only
  rw [List.take_add, List.take_add]
  exact List.forall_mem_append.mpr ⟨List.forall_mem_append.mpr
    ⟨numeric_wholeLength _, numeric_fractionLength _⟩, numeric_exponentLength _⟩

/-- A number is read off as characters of numbers, and it has no keys. -/
theorem number_skips {cursor next : Cursor} {json : Json} (h : number cursor = .ok (json, next)) :
    ∃ count, (∀ c ∈ cursor.rest.take count, isNumeric c = true) ∧ next = cursor.skip count ∧
      ∀ key, KeysAre key json := by
  unfold number at h
  split at h
  next sign digits hsign =>
    have htake : ∀ count, (∀ c ∈ digits.take count, isNumeric c = true) →
        ∀ c ∈ cursor.rest.take (sign + count), isNumeric c = true := by
      intro count hcount
      split at hsign
      all_goals
        next rest hrest =>
          obtain ⟨rfl, rfl⟩ := Prod.mk.inj hsign
          simpa [hrest, Nat.add_comm 1, isNumeric] using hcount
    have hparts := htake _ (numeric_parts digits)
    rw [← Nat.add_assoc, ← Nat.add_assoc] at hparts
    dsimp only at h
    split at h
    · cases h
    · split at h
      all_goals
        obtain ⟨rfl, rfl⟩ := Prod.mk.inj (Except.ok.inj h)
        exact ⟨_, hparts, rfl, fun _ => trivial⟩

/-! ## Values -/

theorem keysAre_ofPairs {key : String → Prop} {list : List (String × Json)}
    (h : ∀ member ∈ list, key member.1) : KeysAre key (.object (Entries.ofPairs list)) := by
  have hput : ∀ (entries : Entries String Json) (name : String) (value : Json), key name →
      (∀ member ∈ entries, key member.1) → ∀ member ∈ entries.put name value, key member.1 := by
    intro entries name value hname hentries member hmember
    have hkey : member.1 ∈ Entries.keys (entries.put name value) := List.mem_map_of_mem hmember
    have hkeys : ∀ found ∈ Entries.keys entries, key found := List.forall_mem_map.mpr hentries
    rw [Entries.keys_put] at hkey
    split at hkey
    · exact hkeys _ hkey
    · rcases List.mem_append.mp hkey with hold | hnew
      · exact hkeys _ hold
      · rw [List.mem_singleton.mp hnew]
        exact hname
  have hfold : ∀ entries : Entries String Json, (∀ member ∈ entries, key member.1) →
      ∀ member ∈ list.foldl (fun entries pair => entries.put pair.1 pair.2) entries,
        key member.1 := by
    induction list with
    | nil => exact fun entries hentries => hentries
    | cons pair rest ih =>
        obtain ⟨hpair, hrest⟩ := List.forall_mem_cons.mp h
        exact fun entries hentries => ih hrest _ (hput entries _ _ hpair hentries)
  exact hfold [] (by simp)

/-- What some number of the reader's steps keep. -/
structure Keeps (left : List Char → Prop) (key : String → Prop) (steps : Nat) : Prop where
  value : ∀ {cursor next : Cursor} {json : Json}, Json.value steps cursor = .ok (json, next) →
    left cursor.rest → left next.rest ∧ KeysAre key json
  items : ∀ {cursor next : Cursor} {list : List Json},
    Json.items steps cursor = .ok (list, next) → left cursor.rest → left next.rest
  members : ∀ {cursor next : Cursor} {list : List (String × Json)},
    memberList steps cursor = .ok (list, next) → left cursor.rest →
      left next.rest ∧ ∀ member ∈ list, key member.1

namespace Follows

variable {left : List Char → Prop} {key : String → Prop} (h : Follows left key)

include h

/-- Bare characters are passed over. -/
theorem skip {cursor : Cursor} {count : Nat} (hbare : Bare (cursor.rest.take count))
    (hleft : left cursor.rest) : left (cursor.skip count).rest := by
  obtain ⟨offset, rest⟩ := cursor
  induction count generalizing offset rest with
  | zero => exact hleft
  | succ count ih =>
      cases rest with
      | nil => exact hleft
      | cons c rest =>
          rw [List.take_succ_cons] at hbare
          obtain ⟨hc, hmore⟩ := List.forall_mem_cons.mp hbare
          exact ih offset rest hmore (h.drop hleft hc.1 hc.2)

theorem skipOne {cursor : Cursor} {c : Char} {rest : List Char} (hrest : cursor.rest = c :: rest)
    (hquote : c ≠ '"') (hescape : c ≠ '\\') (hleft : left cursor.rest) :
    left (cursor.skip 1).rest := by
  refine h.skip ?_ hleft
  simpa [hrest, Bare] using ⟨hquote, hescape⟩

theorem skipSpace {cursor : Cursor} (hleft : left cursor.rest) : left cursor.skipSpace.rest := by
  refine h.skip ?_ hleft
  rw [← List.prefix_iff_eq_take.mp (List.takeWhile_prefix _)]
  intro c hc
  have hspace := List.all_eq_true.mp List.all_takeWhile c hc
  constructor
  all_goals
    rintro rfl
    cases hspace

/-- Names and numbers are passed over, and have no keys. -/
theorem scalar {cursor next : Cursor} {json : Json} (hread : Json.scalar cursor = .ok (json, next))
    (hleft : left cursor.rest) : left next.rest ∧ KeysAre key json := by
  have hname {name : List Char} {value : Json} (hstart : name.isPrefixOf cursor.rest = true)
      (heq : (.ok (value, cursor.skip name.length) : Except DecodeError _) = .ok (json, next))
      (hbare : Bare name) (hkeys : KeysAre key value) : left next.rest ∧ KeysAre key json := by
    obtain ⟨rfl, rfl⟩ := Prod.mk.inj (Except.ok.inj heq)
    refine ⟨h.skip ?_ hleft, hkeys⟩
    rwa [← List.prefix_iff_eq_take.mp (List.isPrefixOf_iff_prefix.mp hstart)]
  unfold Json.scalar at hread
  iterate 6
    split at hread
    · next hstart => exact hname hstart hread (by simp [Bare]) trivial
  obtain ⟨count, hnumeric, rfl, hkeys⟩ := number_skips hread
  exact ⟨h.skip (bare_of_numeric hnumeric) hleft, hkeys key⟩

section

variable {steps : Nat} (hsteps : Keeps left key steps)

include hsteps

theorem value_succ {cursor next : Cursor} {json : Json}
    (hread : Json.value (steps + 1) cursor = .ok (json, next)) (hleft : left cursor.rest) :
    left next.rest ∧ KeysAre key json := by
  rw [Json.value] at hread
  split at hread
  · cases hread
  · next rest hrest =>
      obtain ⟨⟨text, behind⟩, hstring, heq⟩ := exists_of_bind_eq_ok hread
      obtain ⟨rfl, rfl⟩ := Prod.mk.inj (Except.ok.inj heq)
      exact ⟨(h.string hrest hleft hstring).1, trivial⟩
  · next rest hrest =>
      have hinside := h.skipSpace (h.skipOne hrest (by decide) (by decide) hleft)
      dsimp only at hread
      split at hread
      · next hclose =>
          obtain ⟨rfl, rfl⟩ := Prod.mk.inj (Except.ok.inj hread)
          exact ⟨h.skipOne hclose (by decide) (by decide) hinside, trivial⟩
      · obtain ⟨⟨list, behind⟩, hitems, heq⟩ := exists_of_bind_eq_ok hread
        obtain ⟨rfl, rfl⟩ := Prod.mk.inj (Except.ok.inj heq)
        exact ⟨hsteps.items hitems hinside, trivial⟩
  · next rest hrest =>
      have hinside := h.skipSpace (h.skipOne hrest (by decide) (by decide) hleft)
      dsimp only at hread
      split at hread
      · next hclose =>
          obtain ⟨rfl, rfl⟩ := Prod.mk.inj (Except.ok.inj hread)
          exact ⟨h.skipOne hclose (by decide) (by decide) hinside, by simp [KeysAre]⟩
      · obtain ⟨⟨list, behind⟩, hmembers, heq⟩ := exists_of_bind_eq_ok hread
        obtain ⟨rfl, rfl⟩ := Prod.mk.inj (Except.ok.inj heq)
        obtain ⟨hbehind, hkeys⟩ := hsteps.members hmembers hinside
        exact ⟨hbehind, keysAre_ofPairs hkeys⟩
  · exact h.scalar hread hleft

theorem items_succ {cursor next : Cursor} {list : List Json}
    (hread : Json.items (steps + 1) cursor = .ok (list, next)) (hleft : left cursor.rest) :
    left next.rest := by
  rw [Json.items] at hread
  obtain ⟨⟨item, behind⟩, hvalue, heq⟩ := exists_of_bind_eq_ok hread
  have hbehind := h.skipSpace (hsteps.value hvalue hleft).1
  dsimp only at heq
  split at heq
  · next hclose =>
      obtain ⟨rfl, rfl⟩ := Prod.mk.inj (Except.ok.inj heq)
      exact h.skipOne hclose (by decide) (by decide) hbehind
  · next hcomma =>
      obtain ⟨⟨more, last⟩, hmore, heq⟩ := exists_of_bind_eq_ok heq
      obtain ⟨rfl, rfl⟩ := Prod.mk.inj (Except.ok.inj heq)
      exact hsteps.items hmore (h.skipSpace (h.skipOne hcomma (by decide) (by decide) hbehind))
  · cases heq

theorem members_succ {cursor next : Cursor} {list : List (String × Json)}
    (hread : memberList (steps + 1) cursor = .ok (list, next)) (hleft : left cursor.rest) :
    left next.rest ∧ ∀ member ∈ list, key member.1 := by
  rw [memberList] at hread
  split at hread
  · next rest hrest =>
      obtain ⟨⟨name, named⟩, hstring, hread⟩ := exists_of_bind_eq_ok hread
      obtain ⟨hnamed, hname⟩ := h.string hrest hleft hstring
      dsimp only at hread
      split at hread
      · next hcolon =>
          obtain ⟨⟨item, behind⟩, hvalue, heq⟩ := exists_of_bind_eq_ok hread
          have hstart := h.skipSpace (h.skipOne hcolon (by decide) (by decide)
            (h.skipSpace hnamed))
          have hbehind := h.skipSpace (hsteps.value hvalue hstart).1
          dsimp only at heq
          split at heq
          · next hclose =>
              obtain ⟨rfl, rfl⟩ := Prod.mk.inj (Except.ok.inj heq)
              exact ⟨h.skipOne hclose (by decide) (by decide) hbehind, by simpa using hname⟩
          · next hcomma =>
              obtain ⟨⟨more, last⟩, hmore, heq⟩ := exists_of_bind_eq_ok heq
              obtain ⟨rfl, rfl⟩ := Prod.mk.inj (Except.ok.inj heq)
              obtain ⟨hlast, hkeys⟩ := hsteps.members hmore
                (h.skipSpace (h.skipOne hcomma (by decide) (by decide) hbehind))
              exact ⟨hlast, List.forall_mem_cons.mpr ⟨hname, hkeys⟩⟩
          · cases heq
      · cases hread
  · cases hread

end

/-- What follows the reader is kept by any number of its steps. -/
theorem keeps (steps : Nat) : Keeps left key steps := by
  induction steps with
  | zero =>
      constructor
      · intro _ _ _ hread
        cases hread
      · intro _ _ _ hread
        cases hread
      · intro _ _ _ hread
        cases hread
  | succ steps ih => exact ⟨h.value_succ ih, h.items_succ ih, h.members_succ ih⟩

/-- What follows the reader holds of the end of every document that is read. -/
theorem decodeChars {text : List Char} {json : Json} (hread : Json.decodeChars text = .ok json)
    (hleft : left text) : left [] ∧ KeysAre key json := by
  unfold Json.decodeChars at hread
  split at hread
  · cases hread
  · obtain ⟨⟨found, behind⟩, hvalue, heq⟩ := exists_of_bind_eq_ok hread
    dsimp only at heq
    split at heq
    · next hend =>
        obtain rfl := Except.ok.inj heq
        obtain ⟨hbehind, hkeys⟩ := (h.keeps _).value hvalue (h.skipSpace hleft)
        have hlast := h.skipSpace hbehind
        rw [List.isEmpty_iff.mp hend] at hlast
        exact ⟨hlast, hkeys⟩
    · cases heq

end Follows

end ManifestLint.Json
