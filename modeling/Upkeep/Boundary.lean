/-
Upkeep.Boundary — the boundary at which problems are told to clients.

A failure is counted under its category and told by its description; any
other problem is counted under its own word and passed on as it is. Both
are logged. A call that goes well leaves no mark.
-/
import Upkeep.Failure
import Upkeep.Log.Record

namespace Upkeep

/-- Counts by kind of problem, in order of first appearance. -/
abbrev Counts := List (String × Nat)

/-- The counts with one more of a kind. -/
def Counts.increment (kind : String) : Counts → Counts
  | [] => [(kind, 1)]
  | (k, n) :: rest =>
    if k == kind then (k, n + 1) :: rest else (k, n) :: Counts.increment kind rest

/-- How often a kind was counted. -/
def Counts.of (kind : String) : Counts → Nat
  | [] => 0
  | (k, n) :: rest => if k == kind then n else Counts.of kind rest

/-- The boundary: who logs, what is appended to a logged problem (the
place that it came from, if that is wanted), and the counts so far. -/
structure Boundary where
  source : String := Log.Source.boundary
  trace : Option String := none
  counts : Counts := []
  deriving BEq, Repr

namespace Boundary

/-- The word under which a problem is counted. -/
def kindOf : Problem → String
  | .failure f => f.category.word
  | .told _ => "ToolError"
  | .fault f => f.kind.word

/-- What a client is told of a problem. -/
def tell : Problem → Problem
  | .failure f => .told f
  | p => p

/-- The record about a problem. -/
def record (b : Boundary) (method : Option String) (p : Problem) : Log.Record :=
  let asked := method.getD "None"
  let line := s!"Error in {asked}: {kindOf p}: {p.text}"
  ⟨.error, b.source, match b.trace with | none => line | some trace => line ++ "\n" ++ trace⟩

/-- The outcome of a call, seen from outside: the boundary afterwards,
what is logged, and what the client gets. -/
def pass {α : Type} (b : Boundary) (method : Option String) (outcome : Except Problem α) :
    Boundary × List Log.Record × Except Problem α :=
  match outcome with
  | .ok a => (b, [], .ok a)
  | .error p =>
    ({ b with counts := b.counts.increment (kindOf p) }, [b.record method p], .error (tell p))

/-- The boundary with nothing counted. -/
def reset (b : Boundary) : Boundary := { b with counts := [] }

end Boundary

end Upkeep
