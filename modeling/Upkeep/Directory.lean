/-
Upkeep.Directory — names bound to numbers.
-/
namespace Upkeep

/-- Names, each bound to one number. -/
abbrev Directory := List (String × Nat)

namespace Directory

/-- The number that a name is bound to. -/
def find? (name : String) : Directory → Option Nat
  | [] => none
  | (n, k) :: rest => if n == name then some k else find? name rest

/-- The directory without a name. -/
def unbind (name : String) (d : Directory) : Directory := d.filter fun e => e.1 != name

/-- The directory with a name bound to a number, whatever it was bound to
before. -/
def bind (name : String) (k : Nat) (d : Directory) : Directory := unbind name d ++ [(name, k)]

/-- The names of a directory. -/
def names (d : Directory) : List String := d.map (·.1)

theorem find?_append (name : String) :
    ∀ d e : Directory, find? name (d ++ e) = (find? name d).or (find? name e)
  | [], _ => rfl
  | (n, _) :: rest, e => by
      by_cases h : n = name
      · simp [find?, h]
      · simpa [find?, h] using find?_append name rest e

theorem find?_unbind_self (name : String) : ∀ d : Directory, find? name (unbind name d) = none
  | [] => rfl
  | (n, k) :: rest => by
      have ih := find?_unbind_self name rest
      by_cases h : n = name
      · simpa [unbind, h] using ih
      · simpa [unbind, find?, h] using ih

theorem find?_unbind_of_ne {name other : String} (h : other ≠ name) :
    ∀ d : Directory, find? other (unbind name d) = find? other d
  | [] => rfl
  | (n, k) :: rest => by
      have ih := find?_unbind_of_ne h rest
      by_cases hn : n = name
      · subst hn
        simpa [unbind, find?, Ne.symm h] using ih
      · by_cases ho : n = other
        · subst ho
          simp [unbind, find?, hn]
        · simpa [unbind, find?, hn, ho] using ih

@[simp] theorem find?_bind_self (name : String) (k : Nat) (d : Directory) :
    find? name (bind name k d) = some k := by
  simp [bind, find?_append, find?_unbind_self, find?]

theorem find?_bind_of_ne {name other : String} (h : other ≠ name) (k : Nat) (d : Directory) :
    find? other (bind name k d) = find? other d := by
  simp [bind, find?_append, find?_unbind_of_ne h, find?, Ne.symm h]

end Directory

end Upkeep
