/-
Upkeep.Text.Substitution — looking for a text, and one pass over a text
with replacements.

At each place, from the left, a rule is asked what stands for the text
that begins there. If it answers with the number of characters that it
takes and their replacement, reading goes on behind them; otherwise one
character is kept. A replacement is never looked at again.
-/
namespace Upkeep.Text

/-- The first text stands somewhere in the second. -/
def occursIn (part : List Char) : List Char → Bool
  | [] => part.isEmpty
  | c :: rest => part.isPrefixOf (c :: rest) || occursIn part rest

/-- What stands for the beginning of a text: how many characters it takes,
and the replacement. -/
abbrev Rule := List Char → Option (Nat × List Char)

/-- The substitution in the rest of a text whose first `skip` characters
were taken already. -/
def substituteAfter (rule : Rule) : (skip : Nat) → List Char → List Char
  | _, [] => []
  | skip + 1, _ :: rest => substituteAfter rule skip rest
  | 0, c :: rest =>
    match rule (c :: rest) with
    | some (taken, replacement) => replacement ++ substituteAfter rule (taken - 1) rest
    | none => c :: substituteAfter rule 0 rest

/-- The text with everything replaced that a rule answers for. -/
def substitute (rule : Rule) (s : List Char) : List Char := substituteAfter rule 0 s

theorem substituteAfter_eq_substitute_drop (rule : Rule) (skip : Nat) (s : List Char) :
    substituteAfter rule skip s = substitute rule (s.drop skip) := by
  induction s generalizing skip with
  | nil => cases skip <;> rfl
  | cons c rest ih =>
    cases skip with
    | zero => rfl
    | succ skip => exact ih skip

@[simp] theorem substitute_nil (rule : Rule) : substitute rule [] = [] := rfl

theorem substitute_cons_of_none {rule : Rule} {c : Char} {rest : List Char}
    (h : rule (c :: rest) = none) : substitute rule (c :: rest) = c :: substitute rule rest := by
  unfold substitute
  rw [substituteAfter, h]

theorem substitute_cons_of_some {rule : Rule} {c : Char} {rest replacement : List Char}
    {taken : Nat}
    (h : rule (c :: rest) = some (taken, replacement)) :
    substitute rule (c :: rest) = replacement ++ substitute rule (rest.drop (taken - 1)) := by
  rw [← substituteAfter_eq_substitute_drop]
  unfold substitute
  rw [substituteAfter, h]

end Upkeep.Text
