/-
Upkeep.Proofs.Tallies — what the boundary lets through, and what it counts.

A boundary is visited by calls, each with its outcome, and now and then by the
wish to start counting anew (`Boundary.Visit`). What comes of a visit does not
depend on the visits before it (`Boundary.Faithful`): a value passes in
silence, a failure is told to the client, any other problem passes as it is,
and either of the two leaves one record.

Main statement: `Boundary.run_tallies` — after any number of visits the counts
are those of the problems since the last reset (`Counts.Tallies`), by what the
problems are (`Boundary.OfKind`): a failure is of the kind of its category, any
other problem of the kind of its class. It rests on what one visit does to the
counts (`Boundary.tallies_visit`), by induction on the visits from the last one
backwards.
-/
import Mathlib.Data.List.DropRight
import Upkeep.Boundary

namespace Upkeep

/-! ## 1. Counts -/

namespace Counts

/-- The counts are these: every kind has one entry at most, it has one if it
was counted at all, and the entry is right. -/
structure Tallies (counts : Counts) (often : String → Nat) : Prop where
  distinct : (counts.map Prod.fst).Nodup
  listed (kind : String) : kind ∈ counts.map Prod.fst ↔ 0 < often kind
  counted (kind : String) : counts.of kind = often kind

theorem of_increment (kind k : String) (counts : Counts) :
    (counts.increment kind).of k = counts.of k + if k = kind then 1 else 0 := by
  induction counts with
  | nil =>
    by_cases same : k = kind
    · simp [increment, of, same]
    · simp [increment, of, same, Ne.symm same]
  | cons entry rest ih =>
    obtain ⟨first, n⟩ := entry
    simp only [increment, beq_iff_eq]
    split
    · rename_i hit
      subst hit
      by_cases same : k = first
      · simp [of, same]
      · simp [of, same, Ne.symm same]
    · rename_i missed
      by_cases same : first = k
      · subst same
        simp [of, missed]
      · simp [of, same, ih]

theorem mem_kinds_increment {kind k : String} {counts : Counts} :
    k ∈ (counts.increment kind).map Prod.fst ↔ k = kind ∨ k ∈ counts.map Prod.fst := by
  induction counts with
  | nil => simp [increment]
  | cons entry rest ih =>
    obtain ⟨first, n⟩ := entry
    simp only [increment, beq_iff_eq]
    split
    · rename_i hit
      simp [hit]
    · simp only [List.map_cons, List.mem_cons, ih]
      exact or_left_comm

theorem nodup_kinds_increment (kind : String) {counts : Counts}
    (h : (counts.map Prod.fst).Nodup) : ((counts.increment kind).map Prod.fst).Nodup := by
  induction counts with
  | nil => simp [increment]
  | cons entry rest ih =>
    obtain ⟨first, n⟩ := entry
    rw [List.map_cons, List.nodup_cons] at h
    simp only [increment, beq_iff_eq]
    split
    · exact List.nodup_cons.mpr h
    · rename_i missed
      rw [List.map_cons, List.nodup_cons, mem_kinds_increment]
      refine ⟨?_, ih h.2⟩
      rintro (hit | known)
      · exact missed hit
      · exact h.1 known

theorem tallies_nil : Tallies [] fun _ => 0 where
  distinct := List.nodup_nil
  listed := by simp
  counted _ := rfl

theorem Tallies.increment {counts : Counts} {often : String → Nat} (h : Tallies counts often)
    (kind : String) :
    Tallies (counts.increment kind) fun k => often k + if k = kind then 1 else 0 where
  distinct := nodup_kinds_increment kind h.distinct
  listed k := by
    rw [mem_kinds_increment, h.listed]
    by_cases same : k = kind
    · simp [same]
    · simp [same]
  counted k := by rw [of_increment, h.counted]

end Counts

/-! ## 2. Visits -/

namespace Boundary

open Counts (Tallies tallies_nil)

variable {α : Type}

/-- The kinds of problems: a failure is of the kind that is called like its
category, any other problem of the kind that is called like its class. -/
inductive OfKind : Problem → String → Prop
  | failure (f : Failure) : OfKind (.failure f) f.category.word
  | told (f : Failure) : OfKind (.told f) "ToolError"
  | fault (f : Fault) : OfKind (.fault f) f.kind.word

/-- The word that the boundary has for a problem is that of its kind, and a
problem is of one kind only. -/
theorem ofKind_iff {p : Problem} {kind : String} : OfKind p kind ↔ kindOf p = kind := by
  constructor
  · intro h
    cases h with
    | failure f => rfl
    | told f => rfl
    | fault f => rfl
  · rintro rfl
    cases p with
    | failure f => exact .failure f
    | told f => exact .told f
    | fault f => exact .fault f

instance (p : Problem) (kind : String) : Decidable (OfKind p kind) :=
  decidable_of_iff (kindOf p = kind) ofKind_iff.symm

/-- What a boundary is visited by: a call with its outcome, or the wish to
start counting anew. -/
inductive Visit (α : Type)
  | call (method : Option String) (outcome : Except Problem α)
  | reset

namespace Visit

/-- The visit starts the counting anew. -/
def isReset : Visit α → Bool
  | .call _ _ => false
  | .reset => true

/-- The visit brings a problem of a kind. -/
def Brings (kind : String) : Visit α → Prop
  | .call _ (.error p) => OfKind p kind
  | .call _ (.ok _) => False
  | .reset => False

instance (kind : String) : DecidablePred (Brings (α := α) kind)
  | .call _ (.error p) => inferInstanceAs (Decidable (OfKind p kind))
  | .call _ (.ok _) => isFalse id
  | .reset => isFalse id

end Visit

/-- What comes of a visit: what is logged, and what the caller gets of a
call. -/
structure Passage (α : Type) where
  records : List Log.Record
  got : Option (Except Problem α)

/-- One visit. -/
def visit (b : Boundary) : Visit α → Boundary × Passage α
  | .call method outcome =>
    let (after, records, got) := b.pass method outcome
    (after, ⟨records, some got⟩)
  | .reset => (b.reset, ⟨[], none⟩)

/-- Visits one after the other. -/
def run (b : Boundary) : List (Visit α) → Boundary × List (Passage α)
  | [] => (b, [])
  | v :: rest =>
    let (next, passage) := b.visit v
    let (last, passages) := next.run rest
    (last, passage :: passages)

/-- How many of the visits since the last reset brought a problem of a
kind. -/
def failures (visits : List (Visit α)) (kind : String) : Nat :=
  (visits.rtakeWhile fun v => !v.isReset).countP fun v => v.Brings kind

/-! What a call is, in each case. -/

theorem visit_returned (b : Boundary) (method : Option String) (a : α) :
    b.visit (.call method (.ok a)) = (b, ⟨[], some (.ok a)⟩) := rfl

theorem visit_raised (b : Boundary) (method : Option String) (p : Problem) :
    b.visit (.call method (.error p) : Visit α) =
      ({ b with counts := b.counts.increment (kindOf p) },
        ⟨[b.record method p], some (.error (tell p))⟩) := rfl

theorem run_append_singleton (b : Boundary) (visits : List (Visit α)) (v : Visit α) :
    (b.run (visits ++ [v])).1 = ((b.run visits).1.visit v).1 := by
  induction visits generalizing b with
  | nil => rfl
  | cons first rest ih => exact ih (b.visit first).1

theorem failures_reset (visits : List (Visit α)) (kind : String) :
    failures (visits ++ [.reset]) kind = 0 := by
  unfold failures
  rw [List.rtakeWhile_concat_neg _ _ _ (by simp [Visit.isReset])]
  rfl

theorem failures_call (visits : List (Visit α)) (method : Option String)
    (outcome : Except Problem α) (kind : String) :
    failures (visits ++ [.call method outcome]) kind =
      failures visits kind + if (Visit.call method outcome).Brings kind then 1 else 0 := by
  unfold failures
  rw [List.rtakeWhile_concat_pos _ _ _ (by simp [Visit.isReset]), List.countP_append,
    List.countP_singleton]
  simp

/-! ## 3. What comes of a visit -/

/-- The record names what was asked, the kind of the problem, and what the
problem says; the place that it came from may follow. -/
structure Reports (source : String) (method : Option String) (p : Problem) (r : Log.Record) :
    Prop where
  level : r.level = .error
  source : r.source = source
  text : ∃ kind place, OfKind p kind ∧ r.text =
    "Error in " ++ method.getD "None" ++ ": " ++ kind ++ ": " ++ p.text ++ place

/-- The client is told of a failure, by its description, and what the client
gets was raised from the failure. -/
structure Tells (f : Failure) (p : Problem) : Prop where
  kind : OfKind p "ToolError"
  text : p.text = "[" ++ f.category.word ++ "/" ++
    (if f.isTransient then "transient" else "terminal") ++ "] " ++ f.message
  origin : p = .told f

/-- What has to come of a visit, whatever was counted before. -/
inductive Faithful (source : String) : Visit α → Passage α → Prop
  | returned (method : Option String) (a : α) :
      Faithful source (.call method (.ok a)) ⟨[], some (.ok a)⟩
  | told {method : Option String} {f : Failure} {p : Problem} {r : Log.Record} : Tells f p →
      Reports source method (.failure f) r →
      Faithful source (.call method (.error (.failure f))) ⟨[r], some (.error p)⟩
  | raised {method : Option String} {p : Problem} {r : Log.Record} : (∀ f, p ≠ .failure f) →
      Reports source method p r →
      Faithful source (.call method (.error p)) ⟨[r], some (.error p)⟩
  | reset : Faithful source .reset ⟨[], none⟩

theorem reports_record (b : Boundary) (method : Option String) (p : Problem) :
    Reports b.source method p (b.record method p) where
  level := rfl
  source := rfl
  text := by
    unfold record
    cases b.trace with
    | none => exact ⟨kindOf p, "", ofKind_iff.mpr rfl, String.append_empty.symm⟩
    | some trace => exact ⟨kindOf p, "\n" ++ trace, ofKind_iff.mpr rfl, String.append_assoc⟩

theorem tells_told (f : Failure) : Tells f (.told f) := ⟨.told f, rfl, rfl⟩

theorem source_visit (b : Boundary) (v : Visit α) : (b.visit v).1.source = b.source := by
  cases v with
  | reset => rfl
  | call method outcome =>
    cases outcome with
    | ok a => rw [visit_returned]
    | error p => rw [visit_raised]

theorem faithful_visit (b : Boundary) (v : Visit α) : Faithful b.source v (b.visit v).2 := by
  cases v with
  | reset => exact .reset
  | call method outcome =>
    cases outcome with
    | ok a => exact .returned method a
    | error p =>
      have reported := b.reports_record method p
      rw [visit_raised]
      cases p with
      | failure f => exact .told (tells_told f) reported
      | told f => exact .raised (fun _ => by simp) reported
      | fault f => exact .raised (fun _ => by simp) reported

theorem faithful_run (b : Boundary) (visits : List (Visit α)) :
    List.Forall₂ (Faithful b.source) visits (b.run visits).2 := by
  induction visits generalizing b with
  | nil => exact .nil
  | cons v rest ih =>
    refine .cons (b.faithful_visit v) ?_
    rw [← b.source_visit v]
    exact ih (b.visit v).1

/-! ## 4. What is counted -/

/-- One more visit, and the counts are again those of the problems since the
last reset. -/
theorem tallies_visit {b : Boundary} {visits : List (Visit α)}
    (h : Tallies b.counts (failures visits)) (v : Visit α) :
    Tallies (b.visit v).1.counts (failures (visits ++ [v])) := by
  cases v with
  | reset =>
    have none : failures (visits ++ [.reset]) = fun _ => 0 := funext (failures_reset visits)
    rw [none]
    exact tallies_nil
  | call method outcome =>
    have more := funext (failures_call visits method outcome)
    rw [more]
    cases outcome with
    | ok a => simpa [visit_returned, Visit.Brings] using h
    | error p =>
      simpa [visit_raised, Visit.Brings, ofKind_iff, eq_comm] using h.increment (kindOf p)

theorem tallies_run {b : Boundary} (fresh : b.counts = []) (visits : List (Visit α)) :
    Tallies (b.run visits).1.counts (failures visits) := by
  induction visits using List.reverseRecOn with
  | nil =>
    have start : (b.run ([] : List (Visit α))).1.counts = [] := fresh
    rw [start]
    exact tallies_nil
  | append_singleton visits v ih =>
    rw [run_append_singleton]
    exact tallies_visit ih v

/-- A boundary is transparent and counts exactly.

Every visit comes to what it has to, whatever the visits before it were; and
after each of them the counts are those of the problems since the last reset,
by kind. -/
theorem run_tallies (source : String) (trace : Option String) (visits : List (Visit α)) :
    let fresh : Boundary := { source, trace }
    List.Forall₂ (Faithful source) visits (fresh.run visits).2 ∧
      ∀ n, Tallies (fresh.run (visits.take n)).1.counts (failures (visits.take n)) :=
  ⟨faithful_run { source, trace } visits, fun n => tallies_run rfl (visits.take n)⟩

/-! What came before a reset counts no more; of what comes after it, failures
are counted by category and other problems by class. -/
example :
    let lost : Problem := .failure ⟨.transfer "/tmp/web" ⟨.system none, "gone"⟩, none⟩
    let odd : Problem := .fault ⟨.value, "odd"⟩
    let visits : List (Visit Unit) :=
      [.call none (.error lost), .reset, .call (some "tools/call") (.error odd),
        .call none (.error lost), .call none (.ok ()), .call none (.error odd)]
    (run {} (visits.take 1)).1.counts = [("transfer_failure", 1)] ∧
      (run {} (visits.take 2)).1.counts = [] ∧
      (run {} visits).1.counts = [("ValueError", 2), ("transfer_failure", 1)] := by decide

end Boundary

end Upkeep
