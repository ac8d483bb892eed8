/-
Upkeep.Proofs.Frame — what a pass leaves alone.

A pass writes to the record of one incarnation and may forget one name;
`Framed` says how little that is. It holds however the pass ends, because it
is a bound of the pass (`Pass.Bounds`). The output of the scripts changes
only after a connection was established, so what was captured last survives
every pass that does not get that far.

The statements are about passes during which no other task does anything.
-/
import Upkeep.Proofs.Bounds
import Upkeep.Proofs.Performing

namespace Upkeep

open Upkeep.Act

variable {σ : Type}

namespace Directory

theorem unbind_unbind (name : String) (d : Directory) :
    unbind name (unbind name d) = unbind name d := by
  simp [unbind]

end Directory

/-! ## 1. Frames -/

/-- Between the stores nothing happened but to the record of incarnation `k`
of a name, of which the same is requested as before, and the name may have
been forgotten. -/
structure Framed (name : String) (k : Nat) (s s' : Store) : Prop where
  records : ∀ j, j ≠ k → s'.record j = s.record j
  current : s'.current = s.current ∨ s'.current = s.current.unbind name
  request : (s.record k).SameRequest (s'.record k)

/-- The output of the scripts of incarnation `k` is as it was. -/
def SameOutput (k : Nat) (s s' : Store) : Prop :=
  (s.record k).observation.SameOutput (s'.record k).observation

namespace Framed

variable {name : String} {k : Nat} {s s' s'' : Store}

theorem refl (s : Store) : Framed name k s s := ⟨fun _ _ => rfl, Or.inl rfl, .refl _⟩

theorem trans (h : Framed name k s s') (h' : Framed name k s' s'') : Framed name k s s'' where
  records j hj := (h'.records j hj).trans (h.records j hj)
  current := by
    rcases h.current with same | gone <;> rcases h'.current with same' | gone'
    · exact Or.inl (same'.trans same)
    · exact Or.inr (by rw [gone', same])
    · exact Or.inr (by rw [same', gone])
    · exact Or.inr (by rw [gone', gone, Directory.unbind_unbind])
  request := h.request.trans h'.request

theorem edit {f : Resource → Resource} (request : ∀ r : Resource, r.SameRequest (f r))
    (s : Store) : Framed name k s (s.edit k f) where
  records _ hj := Store.record_edit_of_ne hj f
  current := Or.inl rfl
  request := by
    rcases Store.record_edit_cases s k k f with same | changed
    · rw [same]
      exact .refl _
    · rw [changed]
      exact request _

theorem agrees (h : s.Agrees s') : Framed name k s s' where
  records j _ := h.record j
  current := Or.inl h.current
  request := by
    rw [h.record]
    exact .refl _

theorem remove (h : Framed name k s s') : Framed name k s (s'.remove name) :=
  h.trans ⟨fun _ _ => rfl, Or.inr rfl, .refl _⟩

/-- Every other name leads where it led, to the record that was there. -/
theorem get?_of_ne (h : Framed name k s s') (known : s.Known) (named : (s.record k).name = name)
    {other : String} (hne : other ≠ name) : s'.get? other = s.get? other := by
  have led : s'.find? other = s.find? other := by
    rcases h.current with same | gone
    · rw [Store.find?, same]
      rfl
    · rw [Store.find?, gone]
      exact Directory.find?_unbind_of_ne hne _
  rw [Store.get?, Store.get?, led]
  cases hj : s.find? other with
  | none => rfl
  | some j =>
    have apart : j ≠ k := by
      rintro rfl
      exact hne ((known other j hj).2.symm.trans named)
    exact congrArg some (h.records j apart)

end Framed

namespace SameOutput

variable {k : Nat} {s s' : Store}

theorem of_record (h : s'.record k = s.record k) : SameOutput k s s' := by
  rw [SameOutput, h]
  exact .refl _

theorem edit {f : Resource → Resource} (quiet : Resource.Quiet f) (s : Store) :
    SameOutput k s (s.edit k f) := by
  rcases Store.record_edit_cases s k k f with same | changed
  · exact .of_record same
  · rw [SameOutput, changed]
    exact quiet.output _

end SameOutput

namespace Pass

/-! ## 2. Passes -/

/-- What a pass does in a session: nothing but to its own record and name,
if the record has that name. -/
def FramedSession (name : String) (k : Nat) (_ : Journal) (w w' : World σ) : Prop :=
  (w.store.record k).name = name → Framed name k w.store w'.store

/-- What a pass does outside of sessions: the output of scripts stays the
same until a connection is established. -/
def FramedPass (name : String) (k : Nat) (es : Journal) (w w' : World σ) : Prop :=
  (w.store.record k).name = name → Framed name k w.store w'.store ∧
    (.connected ∉ es.milestones → SameOutput k w.store w'.store)

variable {env : Surroundings σ} {name : String} {k : Nat} {w w' : World σ}

theorem FramedPass.of_store {es : Journal} (h : w'.store = w.store) :
    FramedPass name k es w w' := fun _ =>
  ⟨by rw [h]; exact .refl _, fun _ => .of_record (by rw [h])⟩

theorem lasts_framedSession : Lasts (σ := σ) (FramedSession name k) where
  refl w _ := .refl w.store
  trans h h' named := by
    have first := h named
    exact first.trans (h' (first.request.name.trans named))

theorem lasts_framedPass : Lasts (σ := σ) (FramedPass name k) where
  refl w := .of_store rfl
  trans h h' named := by
    obtain ⟨first, kept⟩ := h named
    obtain ⟨second, kept'⟩ := h' (first.request.name.trans named)
    refine ⟨first.trans second, fun unconnected => ?_⟩
    rw [Journal.milestones_append, List.mem_append, not_or] at unconnected
    exact (kept unconnected.1).trans (kept' unconnected.2)

/-- No other task does anything in a pause. -/
def Alone (env : Surroundings σ) : Prop := ∀ pause, env.meanwhile pause = pure ()

theorem bounds_framedPass (alone : Alone env) : Bounds env name k (FramedPass name k) where
  lasts := lasts_framedPass
  beside _ _ _ _ := .of_store rfl
  aside _ _ := .of_store rfl
  pause p := by
    rw [alone p]
    exact keeps_pure lasts_framedPass ()
  milestone _ _ := .of_store rfl
  edit quiet w _ := ⟨.edit quiet.request w.store, fun _ => .edit quiet w.store⟩
  forget which h named := by
    obtain rfl := which.elim id fun own => own.trans named
    exact ⟨(h named).1.remove, (h named).2⟩

theorem sessionBounds_framed (alone : Alone env) :
    SessionBounds env name k (FramedSession name k) where
  lasts := lasts_framedSession
  beside w _ _ _ _ := .refl w.store
  aside w _ _ := .refl w.store
  pause p := by
    rw [alone p]
    exact keeps_pure lasts_framedSession ()
  milestone w _ _ := .refl w.store
  edit quiet w _ := .edit quiet.request w.store
  forget which h named := by
    obtain rfl := which.elim id fun own => own.trans named
    exact (h named).remove
  observe seen w _ :=
    .edit (f := fun r => { r with observation := seen }) (fun _ => ⟨rfl, rfl, rfl, rfl⟩) w.store

theorem joined_framed (alone : Alone env) :
    Joined env name k (FramedPass name k) (FramedSession name k) where
  outside := bounds_framedPass alone
  session := sessionBounds_framed alone
  join h connected h' named := by
    obtain ⟨first, -⟩ := h named
    refine ⟨first.trans (h' (first.request.name.trans named)), fun unconnected => ?_⟩
    rw [Journal.milestones_append] at unconnected
    exact absurd (List.mem_append_left _ connected) unconnected

/-- However a pass over a stored name ends: every other resource is as it
was, and so are the records of other incarnations; the names in use are the
same, or they have lost this one; and the same is requested of the resource.
If no connection was established, the output of its last script is the same,
too. -/
theorem run_frame (env : Surroundings σ) (alone : Alone env) {w : World σ} {name : String}
    {k : Nat} (known : w.store.Known) (stored : w.store.find? name = some k) :
    (run env name).Gives w fun es _ w' =>
      (∀ other, other ≠ name → w'.store.get? other = w.store.get? other) ∧
      (∀ j, j ≠ k → w'.store.record j = w.store.record j) ∧
      (w'.store.current = w.store.current ∨
        w'.store.current = w.store.current.unbind name) ∧
      (w.store.record k).SameRequest (w'.store.record k) ∧
      (.connected ∉ es.milestones →
        (w.store.record k).observation.SameOutput (w'.store.record k).observation) := by
  have relock (w : World σ) (s : Store) (same : w.store.Agrees s) :
      FramedPass name k [] w { w with store := s } := fun _ =>
    ⟨.agrees same, fun _ => .of_record (same.record k)⟩
  refine (gives_run_of_body lasts_framedPass relock fun j hj => ?_).mono ?_
  · obtain rfl : k = j := Option.some.inj (stored.symm.trans hj)
    exact (joined_framed alone).keeps_body
  · intro es _ w' framed
    have named := (known name k stored).2
    obtain ⟨frame, output⟩ := framed named
    exact ⟨fun _ hne => frame.get?_of_ne known named hne, frame.records, frame.current,
      frame.request, output⟩

/-- The host refuses connections after it has run a status check, and the
exit code of that check survives the next pass, which fails. -/
theorem run_frame_refused :
    let host : Host (List Int) := { Host.obliging with
      connect := fun _ s =>
        (if s.isEmpty then .error (.fault ⟨.connectionRefused, "refused"⟩) else .ok (), s) }
    let env := host.counted
    let w := Service.serve env (Service.start [0, 0])
      [.put "db" Credentials.sample {},
        .put "web" Credentials.sample { statusCheck := .text "test -d /srv" }, .reconcile "web"]
    Alone env ∧ w.store.Known ∧ w.store.find? "web" = some 1 ∧
      (run env "web").Gives w fun es _ w' => .connected ∉ es.milestones ∧
        (w'.store.record 1).lastError.isSome ∧ w'.store.get? "db" = w.store.get? "db" ∧
        (w'.store.record 1).observation.exitCode = some 0 := by
  intro host env w
  have alone : Alone env := fun _ => rfl
  have quiet : env.Unobtrusive := fun _ w => gives_pure ⟨rfl, Exchange.lasts.refl w⟩
  have known : w.store.Known := (Service.sound_serve quiet _ _).known
  have stored : w.store.find? "web" = some 1 := by decide +kernel
  obtain ⟨es, hj, others, -, -, -, output⟩ := run_frame env alone known stored
  have written := Act.eq_drop_of_added hj
  have unconnected : .connected ∉ es.milestones := by
    have none : es.milestones.length = 0 := by
      rw [written]
      decide +kernel
    rw [List.eq_nil_of_length_eq_zero none]
    exact List.not_mem_nil
  have before : (w.store.record 1).observation.exitCode = some 0 := by decide +kernel
  refine ⟨alone, known, stored, es, hj, unconnected, by decide +kernel, others "db" (by decide), ?_⟩
  exact (output unconnected).exitCode.trans before

end Pass

end Upkeep
