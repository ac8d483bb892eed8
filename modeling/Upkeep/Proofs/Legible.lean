/-
Upkeep.Proofs.Legible — what is read can be shown.

A document is *legible* at a depth if nothing keeps it from being shown in
any room beyond that depth (`Json.Legible`). The reader counts the depth down
as it enters lists and objects, and refuses whole numbers of too many digits.
The way through the reader is taken once, for any property that a document has
from its parts (`Json.FromParts.of_read`); being legible is one, so the fields
of an object that was read can be shown wherever they are
(`legible_field_of_read`).
-/
import Mathlib.Algebra.Group.Nat.Defs
import Mathlib.Data.List.Induction
import Mathlib.Data.List.TakeWhile
import Upkeep.Json.Shown

namespace Upkeep

/-! ## 1. Digits -/

/-- Digits write a number below the power of ten of as many. -/
theorem Decimal.ofDigits_lt {digits : List Nat} (small : ∀ d ∈ digits, d < 10) :
    Decimal.ofDigits digits < 10 ^ digits.length := by
  induction digits using List.reverseRecOn with
  | nil => decide
  | append_singleton digits d ih =>
    have bound := ih fun x hx => small x (List.mem_append_left _ hx)
    have last := small d (by simp)
    rw [Decimal.ofDigits, List.foldl_append, List.foldl_cons, List.foldl_nil, List.length_append,
      List.length_singleton, Nat.pow_succ]
    rw [Decimal.ofDigits] at bound
    omega

namespace Json

open Decimal (Number)

/-! ## 2. Legible documents -/

/-- Nothing keeps the document from being shown where there is room beyond a
depth. -/
def Legible (depth : Nat) (j : Json) : Prop := ∀ room, depth < room → j.obstacle? room = none

theorem obstacleOfItems?_eq_none {room : Nat} {items : List Json} :
    obstacleOfItems? room items = none ↔ ∀ item ∈ items, item.obstacle? room = none := by
  induction items with
  | nil => simp
  | cons item rest ih => simp [ih]

theorem obstacleOfFields?_eq_none {room : Nat} {fields : List (String × Json)} :
    obstacleOfFields? room fields = none ↔ ∀ f ∈ fields, f.2.obstacle? room = none := by
  induction fields with
  | nil => simp
  | cons f rest ih => simp [ih]

theorem legible_text (depth : Nat) (s : String) : Legible depth (.text s) := by
  rintro (_ | room) deep
  · cases deep
  · rfl

theorem legible_list {depth : Nat} {items : List Json} (h : ∀ item ∈ items, Legible depth item) :
    Legible (depth + 1) (.list items) := by
  rintro (_ | room) deep
  · cases deep
  · rw [obstacle?_list, obstacleOfItems?_eq_none]
    exact fun item hi => h item hi room (by omega)

theorem legible_object {depth : Nat} {fields : List (String × Json)}
    (h : ∀ f ∈ fields, Legible depth f.2) : Legible (depth + 1) (.object fields) := by
  rintro (_ | room) deep
  · cases deep
  · rw [obstacle?_object, obstacleOfFields?_eq_none]
    exact fun f hf => h f hf room (by omega)

/-- The fields of an object that is legible at a depth are legible with one
level less of room. -/
theorem Legible.field {depth : Nat} {fields : List (String × Json)}
    (h : Legible (depth + 1) (.object fields)) : ∀ f ∈ fields, Legible depth f.2 := by
  intro f hf room deep
  have whole := h (room + 1) (by omega)
  rw [obstacle?_object, obstacleOfFields?_eq_none] at whole
  exact whole f hf

theorem mem_setField {key : String} {value : Json} {f : String × Json} :
    ∀ {fields}, f ∈ setField key value fields → f.2 = value ∨ f ∈ fields
  | [], h => by
    rw [setField, List.mem_singleton] at h
    exact Or.inl (by rw [h])
  | (k, v) :: rest, h => by
    rw [setField] at h
    split at h
    · rcases List.mem_cons.mp h with rfl | h
      · exact Or.inl rfl
      · exact Or.inr (List.mem_cons_of_mem _ h)
    · rcases List.mem_cons.mp h with rfl | h
      · exact Or.inr (List.mem_cons_self ..)
      · exact (mem_setField h).imp_right (List.mem_cons_of_mem _)

theorem mem_of_field? {key : String} {j : Json} :
    ∀ {fields}, field? key fields = some j → (key, j) ∈ fields
  | [], h => by cases h
  | (k, v) :: rest, h => by
    rw [field?] at h
    split at h
    · rename_i same
      rw [← Option.some.inj h, ← eq_of_beq same]
      exact List.mem_cons_self ..
    · exact List.mem_cons_of_mem _ (mem_of_field? h)

/-! ## 3. Scalars -/

/-- The whole part of a number consists of digits. -/
theorem digits_of_mem_wholeRun {s : List Char} {c : Char} (h : c ∈ wholeRun s) :
    Text.isAsciiDigit c = true := by
  cases s with
  | nil => cases h
  | cons d rest =>
    rw [wholeRun] at h
    split at h
    · rw [List.mem_singleton.mp h]
      decide
    · split at h
      · rename_i digit
        rcases List.mem_cons.mp h with rfl | h
        · exact digit
        · exact List.mem_takeWhile_imp h
      · cases h

/-- A run of digits writes a number of no more digits. -/
theorem digitCount_ofDigits_le {run : List Char} (nonempty : run ≠ [])
    (digits : ∀ c ∈ run, Text.isAsciiDigit c = true) :
    Decimal.Binary64.digitCount (Decimal.ofDigits (run.map fun c => c.toNat - 0x30)) ≤
      run.length := by
  have small : ∀ d ∈ run.map fun c => c.toNat - 0x30, d < 10 := by
    intro d hd
    obtain ⟨c, hc, rfl⟩ := List.mem_map.mp hd
    have range := digits c hc
    simp only [Text.isAsciiDigit, Bool.and_eq_true, decide_eq_true_eq] at range
    omega
  have bound := Decimal.ofDigits_lt small
  rw [List.length_map] at bound
  exact (Nat.length_toDigits_le_iff (by decide) (List.length_pos_iff.mpr nonempty)).mpr bound

/-- A whole number that is read has no more digits than may be shown. -/
theorem digitCount_of_readNumber? {s rest : List Char} {n : Int}
    (h : readNumber? s = some (.ok (.whole n, rest))) :
    Decimal.Binary64.digitCount n.natAbs ≤ Decimal.digitLimit := by
  unfold readNumber? at h
  split at h
  rename_i negative unsigned signed
  clear signed
  split at h
  · cases h
  · rename_i nonempty
    have count := digitCount_ofDigits_le (fun none => nonempty none)
      (fun c hc => digits_of_mem_wholeRun hc)
    split at h
    rename_i fraction afterFraction _
    split at h
    rename_i exponent after _
    dsimp only at h
    split at h
    · rename_i whole
      obtain ⟨noFraction, -⟩ := Bool.and_eq_true_iff.mp whole
      rw [List.isEmpty_iff.mp noFraction, List.append_nil] at h
      split at h
      · cases h
      · rename_i short
        simp only [Option.some.injEq, Except.ok.injEq, Prod.mk.injEq, Number.whole.injEq] at h
        obtain ⟨rfl, -⟩ := h
        cases negative
        · simpa using Nat.le_trans count (Nat.not_lt.mp short)
        · simpa using Nat.le_trans count (Nat.not_lt.mp short)
    · cases h

/-- A document without parts, as it is read: a constant or a number. -/
theorem readScalar_eq_ok {c after : Cursor} {j : Json} (h : readScalar c = .ok (j, after)) :
    (∃ k ∈ constants, k.2 = j) ∨
      ∃ n rest, readNumber? c.rest = some (.ok (n, rest)) ∧ j = .number n := by
  unfold readScalar at h
  split at h
  · rename_i k found
    exact Or.inl ⟨k, List.mem_of_find?_eq_some found, (Prod.mk.inj (Except.ok.inj h)).1⟩
  · split at h
    · cases h
    · cases h
    · rename_i n rest read
      exact Or.inr ⟨n, rest, read, (Prod.mk.inj (Except.ok.inj h)).1.symm⟩

theorem legible_readScalar {c after : Cursor} {j : Json} (h : readScalar c = .ok (j, after))
    (depth : Nat) : Legible depth j := by
  rintro (_ | room) deep
  · cases deep
  · rcases readScalar_eq_ok h with ⟨k, hk, rfl⟩ | ⟨n, rest, read, rfl⟩
    · simp only [constants, List.mem_cons, List.not_mem_nil, or_false] at hk
      rcases hk with rfl | rfl | rfl | rfl | rfl | rfl <;> rfl
    · cases n with
      | whole n => rw [obstacle?_whole, if_neg (Nat.not_lt.mpr (digitCount_of_readNumber? read))]
      | double x => rfl

/-! ## 4. Documents -/

theorem exists_of_bind_eq_ok {ε α β : Type} {o : Except ε α} {f : α → Except ε β} {b : β}
    (h : o >>= f = .ok b) : ∃ a, o = .ok a ∧ f a = .ok b := by
  cases o with
  | error e => cases h
  | ok a => exact ⟨a, rfl, h⟩

/-- A property of documents at depths that a document has from its parts,
which are one level further down. -/
structure FromParts (P : Nat → Json → Prop) : Prop where
  text : ∀ depth s, P depth (.text s)
  scalar : ∀ {c after j}, readScalar c = .ok (j, after) → ∀ depth, P depth j
  list : ∀ {depth items}, (∀ item ∈ items, P depth item) → P (depth + 1) (.list items)
  object : ∀ {depth fields}, (∀ f ∈ fields, P depth f.2) → P (depth + 1) (.object fields)

/-- What is read with some fuel at a depth has the property at that depth. -/
structure Reads (P : Nat → Json → Prop) (fuel : Nat) : Prop where
  value : ∀ {depth c j after}, readValue fuel depth c = .ok (j, after) → P depth j
  items : ∀ {depth passed c j after}, readItems fuel depth passed c = .ok (j, after) →
    (∀ item ∈ passed, P depth item) → P (depth + 1) j
  fields : ∀ {depth passed c j after}, readFields fuel depth passed c = .ok (j, after) →
    (∀ f ∈ passed, P depth f.2) → P (depth + 1) j

section

variable {P : Nat → Json → Prop} {fuel : Nat}

theorem Reads.value_succ (built : FromParts P) (reads : Reads P fuel) {depth : Nat}
    {c after : Cursor} {j : Json} (h : readValue (fuel + 1) depth c = .ok (j, after)) :
    P depth j := by
  rw [readValue.eq_def] at h
  dsimp only at h
  split at h
  · obtain ⟨_, -, h⟩ := exists_of_bind_eq_ok h
    obtain ⟨rfl, -⟩ := Prod.mk.inj (Except.ok.inj h)
    exact built.text _ _
  · split at h
    · cases h
    · split at h
      · obtain ⟨rfl, -⟩ := Prod.mk.inj (Except.ok.inj h)
        exact built.list (by simp)
      · exact reads.items h (by simp)
  · split at h
    · cases h
    · split at h
      · obtain ⟨rfl, -⟩ := Prod.mk.inj (Except.ok.inj h)
        exact built.object (by simp)
      · exact reads.fields h (by simp)
  · exact built.scalar h depth

theorem Reads.items_succ (built : FromParts P) (reads : Reads P fuel) {depth : Nat}
    {passed : List Json} {c after : Cursor} {j : Json}
    (h : readItems (fuel + 1) depth passed c = .ok (j, after))
    (before : ∀ item ∈ passed, P depth item) : P (depth + 1) j := by
  rw [readItems.eq_def] at h
  dsimp only at h
  obtain ⟨⟨item, afterItem⟩, read, h⟩ := exists_of_bind_eq_ok h
  have more : ∀ i ∈ item :: passed, P depth i :=
    List.forall_mem_cons.mpr ⟨reads.value read, before⟩
  split at h
  · obtain ⟨rfl, -⟩ := Prod.mk.inj (Except.ok.inj h)
    exact built.list fun i hi => more i (List.mem_reverse.mp hi)
  · exact reads.items h more
  · cases h

theorem Reads.fields_succ (built : FromParts P) (reads : Reads P fuel) {depth : Nat}
    {passed : List (String × Json)} {c after : Cursor} {j : Json}
    (h : readFields (fuel + 1) depth passed c = .ok (j, after))
    (before : ∀ f ∈ passed, P depth f.2) : P (depth + 1) j := by
  rw [readFields.eq_def] at h
  dsimp only at h
  split at h
  · obtain ⟨⟨key, afterKey⟩, -, h⟩ := exists_of_bind_eq_ok h
    dsimp only at h
    split at h
    · obtain ⟨⟨value, afterValue⟩, read, h⟩ := exists_of_bind_eq_ok h
      have more : ∀ f ∈ setField key value passed, P depth f.2 := by
        intro f hf
        rcases mem_setField hf with same | old
        · rw [same]
          exact reads.value read
        · exact before f old
      dsimp only at h
      split at h
      · obtain ⟨rfl, -⟩ := Prod.mk.inj (Except.ok.inj h)
        exact built.object more
      · exact reads.fields h more
      · cases h
    · cases h
  · cases h

theorem FromParts.reads (built : FromParts P) (fuel : Nat) : Reads P fuel := by
  induction fuel with
  | zero =>
    constructor
    · intro _ _ _ _ h
      cases h
    · intro _ _ _ _ _ h
      cases h
    · intro _ _ _ _ _ h
      cases h
  | succ fuel reads =>
    exact ⟨reads.value_succ built, reads.items_succ built, reads.fields_succ built⟩

/-- What a document has from its parts, every document that is read has. -/
theorem FromParts.of_read (built : FromParts P) {depths : Depths} {s : List Char} {j : Json}
    (h : read s depths = .ok j) : P depths.reader j := by
  obtain ⟨⟨value, after⟩, found, h⟩ := exists_of_bind_eq_ok h
  dsimp only at h
  split at h
  · obtain rfl := Except.ok.inj h
    exact (built.reads _).value found
  · cases h

end

/-! ## 5. Texts -/

theorem fromParts_legible : FromParts Legible :=
  ⟨legible_text, legible_readScalar, legible_list, legible_object⟩

theorem legible_of_read {depths : Depths} {s : List Char} {j : Json}
    (h : read s depths = .ok j) : Legible depths.reader j :=
  fromParts_legible.of_read h

/-- The fields of an object that was read can be shown, taken as a text as
well as inside a message. -/
theorem legible_field_of_read {depths : Depths} {s : List Char} {fields : List (String × Json)}
    (h : read s depths = .ok (.object fields)) {key : String} {j : Json}
    (found : field? key fields = some j) :
    j.obstacle? depths.text = none ∧ j.obstacle? depths.message = none := by
  obtain ⟨depth, one⟩ := Nat.exists_eq_add_one.mpr depths.positive
  have whole := legible_of_read h
  rw [one] at whole
  have legible := whole.field _ (mem_of_field? found)
  have text := depths.reader_le_text
  have message := depths.reader_le_message
  exact ⟨legible _ (by omega), legible _ (by omega)⟩

end Json

end Upkeep
