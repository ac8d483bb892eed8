/-
Upkeep.Text.Order — texts in the order of their code points, and sorting
by that order.
-/
import Upkeep.Text.Surrogate

namespace Upkeep.Text

/-- The first text does not come after the second, compared code point by
code point; a beginning comes before its continuations. -/
def codesLe : List Char → List Char → Bool
  | [], _ => true
  | _ :: _, [] => false
  | a :: s, b :: t =>
    if codePoint a == codePoint b then codesLe s t else codePoint a < codePoint b

theorem codesLe_refl : ∀ s : List Char, codesLe s s = true
  | [] => rfl
  | _ :: s => by simp [codesLe, codesLe_refl s]

theorem codesLe_total : ∀ s t : List Char, (codesLe s t || codesLe t s) = true
  | [], _ => by simp [codesLe]
  | _ :: _, [] => by simp [codesLe]
  | a :: s, b :: t => by
      simp only [codesLe]
      by_cases h : codePoint a = codePoint b
      · simpa [h] using codesLe_total s t
      · have h' : codePoint b ≠ codePoint a := fun e => h e.symm
        simp only [beq_iff_eq, h, h', if_false, Bool.or_eq_true, decide_eq_true_eq]
        omega

theorem codesLe_trans : ∀ {s t u : List Char}, codesLe s t = true → codesLe t u = true →
    codesLe s u = true
  | [], _, _, _, _ => rfl
  | _ :: _, [], _, h, _ => by cases h
  | _ :: _, _ :: _, [], _, h => by cases h
  | a :: s, b :: t, c :: u, h, h' => by
      simp only [codesLe, beq_iff_eq] at h h' ⊢
      by_cases hab : codePoint a = codePoint b
      · rw [if_pos hab] at h
        rw [hab]
        by_cases hbc : codePoint b = codePoint c
        · rw [if_pos hbc] at h' ⊢
          exact codesLe_trans h h'
        · rw [if_neg hbc] at h' ⊢
          exact h'
      · rw [if_neg hab] at h
        simp only [decide_eq_true_eq] at h
        have below : codePoint a < codePoint c := by
          by_cases hbc : codePoint b = codePoint c
          · omega
          · rw [if_neg hbc] at h'
            simp only [decide_eq_true_eq] at h'
            omega
        rw [if_neg (Nat.ne_of_lt below)]
        simpa using below

/-- The first name does not come after the second. -/
def nameLe (a b : String) : Bool := codesLe a.toList b.toList

/-- The name put into a sorted list at the first place it may have. -/
def insertName (name : String) : List String → List String
  | [] => [name]
  | other :: rest =>
    if nameLe name other then name :: other :: rest else other :: insertName name rest

/-- The names in order. -/
def sortNames (names : List String) : List String := names.foldr insertName []

theorem mem_insertName {name other : String} :
    ∀ {names : List String}, other ∈ insertName name names ↔ other = name ∨ other ∈ names
  | [] => by simp [insertName]
  | first :: rest => by
      unfold insertName
      split
      · simp
      · simp only [List.mem_cons, mem_insertName]
        constructor <;> rintro (h | h | h) <;> simp [h]

theorem perm_insertName (name : String) :
    ∀ names : List String, (insertName name names).Perm (name :: names)
  | [] => .refl _
  | first :: rest => by
      unfold insertName
      split
      · exact .refl _
      · exact ((perm_insertName name rest).cons first).trans (.swap name first rest)

/-- Sorting neither loses nor repeats a name. -/
theorem perm_sortNames (names : List String) : (sortNames names).Perm names := by
  unfold sortNames
  induction names with
  | nil => exact .refl _
  | cons first rest ih => exact (perm_insertName first _).trans (ih.cons first)

theorem pairwise_insertName {name : String} {names : List String}
    (sorted : names.Pairwise (nameLe · ·)) : (insertName name names).Pairwise (nameLe · ·) := by
  induction sorted with
  | nil => exact List.pairwise_singleton _ _
  | @cons first rest least sorted ih =>
    unfold insertName
    split
    · rename_i before
      refine List.pairwise_cons.mpr ⟨fun other hother => ?_, List.pairwise_cons.mpr ⟨least, sorted⟩⟩
      rcases List.mem_cons.mp hother with rfl | later
      · exact before
      · exact codesLe_trans before (least other later)
    · rename_i after
      have firstLe : nameLe first name = true := by
        have total := codesLe_total name.toList first.toList
        unfold nameLe at after ⊢
        simpa [after] using total
      refine List.pairwise_cons.mpr ⟨fun other hother => ?_, ih⟩
      rcases mem_insertName.mp hother with rfl | later
      · exact firstLe
      · exact least other later

/-- Sorted names are in order. -/
theorem pairwise_sortNames (names : List String) :
    (sortNames names).Pairwise (nameLe · ·) := by
  unfold sortNames
  induction names with
  | nil => exact .nil
  | cons first rest ih => exact pairwise_insertName ih

end Upkeep.Text
