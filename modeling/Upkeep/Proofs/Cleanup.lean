/-
Upkeep.Proofs.Cleanup — the cleanup script of an incarnation is handed over
at most once, and only on request.

An incarnation is what a name stands for from its registration to its
removal (`Store`). The two flags of its record, that its deletion was
requested and that cleanup was attempted, are set at most once and for good,
and the second only after the first; the script is handed over when the
second is set, or not at all. `Guarded` says so of every step and hence of
every history; here it is read off for a service that starts with nothing
registered.
-/
import Upkeep.Proofs.Performing

namespace Upkeep

open Upkeep.Act

/-- Wherever the second entry stands, the first one stands before it. -/
def Journal.Precedes (first second : Entry) (j : Journal) : Prop :=
  ∀ before rest, j = before ++ second :: rest → first ∈ before

namespace Service

variable {σ : Type}

/-- Whatever is requested of the service, whatever the host does and
whatever deletions are requested in pauses: of an incarnation `k`, the
cleanup script is handed over at most once, after a request for deletion,
and never after it was tried or given up; and the flags that say so stay. -/
theorem cleanup_once (env : Surroundings σ) (marks : Pause → World σ → List String) (host : σ)
    (requests more : List Request) (k : Nat) :
    let w := serve (env.marking marks) (start host) requests
    let w' := serve (env.marking marks) w more
    w'.journal.scripts.count (k, .cleanup) ≤ 1 ∧
    w'.journal.Precedes (.requested k) (.milestone (.script k .cleanup)) ∧
    ((k, .cleanup) ∈ w.journal.scripts → (w.store.record k).cleanupAttempted = true) ∧
    ((w.store.record k).cleanupAttempted = true →
      (w.store.record k).deleting = true ∧
        ∃ later, w'.journal = w.journal ++ later ∧ (k, .cleanup) ∉ later.scripts) ∧
    ((w.store.record k).deleting = true →
      .requested k ∈ w.journal ∧ (w'.store.record k).deleting = true) := by
  intro w w'
  have quiet := env.unobtrusive_marking marks
  obtain ⟨written, hj, run⟩ :=
    exists_run_serve (w := start host) quiet Store.sound_empty.lawful requests
  obtain ⟨later, hj', run'⟩ :=
    exists_run_serve quiet (run.lawful Store.sound_empty.lawful) more
  have journal : w.journal = written := hj
  have first := run.guarded k
  have second := run'.guarded k
  have whole := first.trans second
  rw [hj', journal]
  refine ⟨whole.once, fun before rest hsplit => ?_, first.marked, fun attempted => ?_,
    fun asked => ?_⟩
  · -- nothing was being deleted at the start
    exact (whole.after before rest hsplit).resolve_left Bool.false_ne_true
  · exact ⟨run.lawful Store.sound_empty.lawful k attempted, later, rfl, second.spent attempted⟩
  · exact ⟨(first.asked asked).resolve_left Bool.false_ne_true, second.deleting asked⟩

end Service

end Upkeep
