/-
Upkeep.Proofs.Act — how to reason about acts.

Acts only add to the journal. `Act.Gives act w Q` says so of one act in one
state, and that `Q` holds of what is added, of the outcome and of the state
afterwards. The rules of section 1 follow the ways in which acts are put
together, so a proof about an act has the shape of the act.

`Act.Keeps act R` says that the act stays within a relation `R` between
states, wherever it starts. For a relation that doing nothing and doing one
thing after another stay within (`Lasts`), the rules of section 2 take an
act apart without looking at outcomes. `Act.Ends act P` looks at the
outcome alone.
-/
import Upkeep.World

namespace Upkeep

/-! ## 1. One act in one state -/

namespace World

variable {σ : Type}

@[simp] theorem store_note (w : World σ) (e : Entry) : (w.note e).store = w.store := rfl

end World

namespace Act

variable {σ α β : Type}

/-- What the act adds to the journal in state `w`, its outcome and the
state afterwards are as `Q` says. -/
def Gives (act : Act σ α) (w : World σ)
    (Q : Journal → Except Problem α → World σ → Prop) : Prop :=
  ∃ written, (act.runOn w).2.journal = w.journal ++ written ∧
    Q written (act.runOn w).1 (act.runOn w).2

/-- What an act adds is what its journal has beyond the one before. -/
theorem eq_drop_of_added {act : Act σ α} {w : World σ} {es : Journal}
    (h : (act.runOn w).2.journal = w.journal ++ es) :
    es = (act.runOn w).2.journal.drop w.journal.length := by
  rw [h, List.drop_left]

section Rules

variable {act : Act σ α} {w : World σ} {P Q : Journal → Except Problem α → World σ → Prop}

theorem Gives.mono (h : act.Gives w P) (hPQ : ∀ es o w', P es o w' → Q es o w') :
    act.Gives w Q := by
  obtain ⟨es, hj, hP⟩ := h
  exact ⟨es, hj, hPQ _ _ _ hP⟩

/-- What is added is determined, so two descriptions of an act hold of the
same entries. -/
theorem Gives.and (hP : act.Gives w P) (hQ : act.Gives w Q) :
    act.Gives w fun es o w' => P es o w' ∧ Q es o w' := by
  obtain ⟨es, hj, hP⟩ := hP
  obtain ⟨es', hj', hQ⟩ := hQ
  have same : es' = es := List.append_cancel_left (hj'.symm.trans hj)
  subst same
  exact ⟨es', hj, hP, hQ⟩

theorem gives_pure {a : α} (h : Q [] (.ok a) w) : (pure a : Act σ α).Gives w Q :=
  ⟨[], (List.append_nil _).symm, h⟩

theorem gives_raise {p : Problem} (h : Q [] (.error p) w) : (raise p : Act σ α).Gives w Q :=
  ⟨[], (List.append_nil _).symm, h⟩

theorem gives_settle {outcome : Except Problem α} (h : Q [] outcome w) :
    (settle outcome : Act σ α).Gives w Q := by
  cases outcome with
  | ok a => exact gives_pure h
  | error p => exact gives_raise h

/-- The outcome of one act after another, and the state afterwards. -/
theorem runOn_bind (act : Act σ α) (f : α → Act σ β) (w : World σ) :
    (act >>= f).runOn w = match act.runOn w with
      | (.ok a, w') => (f a).runOn w'
      | (.error p, w') => (.error p, w') := by
  rcases h : act.runOn w with ⟨p | a, w'⟩
  · show (ExceptT.bindCont f (act.runOn w).1).run (act.runOn w).2 = _
    rw [h]
    rfl
  · show (ExceptT.bindCont f (act.runOn w).1).run (act.runOn w).2 = _
    rw [h]
    rfl

theorem runOn_get_bind (f : World σ → Act σ β) (w : World σ) :
    (get >>= f : Act σ β).runOn w = (f w).runOn w := rfl

theorem runOn_settle_bind (outcome : Except Problem α) (f : α → Act σ β) (w : World σ) :
    (settle outcome >>= f).runOn w = match outcome with
      | .ok a => (f a).runOn w
      | .error p => (.error p, w) := by
  cases outcome with
  | ok a => rfl
  | error p => rfl

/-- An act and then a change of the store. -/
theorem runOn_ensuring_edit (act : Act σ α) (f : Store → Store) (w : World σ) :
    (ensuring act (editStore f)).runOn w =
      ((act.runOn w).1, { (act.runOn w).2 with store := f (act.runOn w).2.store }) := by
  show (settle (act.runOn w).1 : Act σ α).runOn
    { (act.runOn w).2 with store := f (act.runOn w).2.store } = _
  cases (act.runOn w).1 with
  | ok a => rfl
  | error p => rfl

/-- One act after another: the second adds to what the first has added. -/
theorem Gives.bind {f : α → Act σ β} {R : Journal → Except Problem β → World σ → Prop}
    (h : act.Gives w P)
    (next : ∀ es a w', P es (.ok a) w' → (f a).Gives w' fun es' o w'' => R (es ++ es') o w'')
    (failed : ∀ es p w', P es (.error p) w' → R es (.error p) w') :
    (act >>= f).Gives w R := by
  obtain ⟨es, hj, hP⟩ := h
  unfold Gives
  rw [runOn_bind]
  rcases hrun : act.runOn w with ⟨p | a, w'⟩ <;> rw [hrun] at hj hP
  · exact ⟨es, hj, failed es p w' hP⟩
  · obtain ⟨es', hj', hR⟩ := next es a w' hP
    refine ⟨es ++ es', ?_, hR⟩
    rw [hj', hj, List.append_assoc]

/-- One act after another, where the first one is known in full. -/
theorem gives_bind {f : α → Act σ β} {R : Journal → Except Problem β → World σ → Prop}
    (h : act.Gives w fun es o w' => match o with
      | .ok a => (f a).Gives w' fun es' o w'' => R (es ++ es') o w''
      | .error p => R es (.error p) w') :
    (act >>= f).Gives w R :=
  h.bind (fun _ _ _ next => next) fun _ _ _ failed => failed

/-- A problem becomes a value, and nothing is raised. -/
theorem Gives.attempt (h : act.Gives w P) :
    (Act.attempt act).Gives w fun es o w' => ∃ outcome, o = .ok outcome ∧ P es outcome w' := by
  obtain ⟨es, hj, hP⟩ := h
  exact ⟨es, hj, _, rfl, hP⟩

/-- Whatever an act comes to, it is a value for the next one. -/
theorem Gives.attempt_bind {f : Except Problem α → Act σ β}
    {R : Journal → Except Problem β → World σ → Prop} (h : act.Gives w P)
    (next : ∀ es outcome w', P es outcome w' →
      (f outcome).Gives w' fun es' o w'' => R (es ++ es') o w'') :
    (Act.attempt act >>= f).Gives w R := by
  refine h.attempt.bind ?_ ?_
  · rintro es outcome w' ⟨_, ho, hP⟩
    cases ho
    exact next es outcome w' hP
  · rintro es p w' ⟨_, ho, -⟩
    cases ho

/-- A last act is done in either case, and its problem takes the place of
the outcome. -/
theorem Gives.ensuring {last : Act σ Unit} (h : act.Gives w P)
    (done : ∀ es o w', P es o w' → last.Gives w' fun es' o' w'' =>
      Q (es ++ es') (o'.bind fun _ => o) w'') :
    (Act.ensuring act last).Gives w Q := by
  unfold Act.ensuring
  refine h.attempt_bind fun es o w' hP => ?_
  refine Gives.bind (done es o w' hP) (fun es' u w'' hQ => ?_) (fun es' p w'' hQ => hQ)
  exact gives_settle (by simpa [Except.bind] using hQ)

/-! The acts that the others are made of. -/

theorem gives_get {Q : Journal → Except Problem (World σ) → World σ → Prop}
    (h : Q [] (.ok w) w) : (get : Act σ (World σ)).Gives w Q :=
  ⟨[], (List.append_nil _).symm, h⟩

theorem gives_modify {Q : Journal → Except Problem Unit → World σ → Prop}
    {f : World σ → World σ} (same : (f w).journal = w.journal) (h : Q [] (.ok ()) (f w)) :
    (modify f : Act σ Unit).Gives w Q :=
  ⟨[], same.trans (List.append_nil _).symm, h⟩

theorem gives_modifyGet {f : World σ → α × World σ} (same : (f w).2.journal = w.journal)
    (h : Q [] (.ok (f w).1) (f w).2) : (modifyGet f : Act σ α).Gives w Q :=
  ⟨[], same.trans (List.append_nil _).symm, h⟩

theorem gives_note {Q : Journal → Except Problem Unit → World σ → Prop} {e : Entry}
    (h : Q [e] (.ok ()) (w.note e)) : (note e : Act σ Unit).Gives w Q :=
  ⟨[e], rfl, h⟩

theorem gives_logAll {Q : Journal → Except Problem Unit → World σ → Prop}
    {records : List Log.Record}
    (h : Q (records.map Entry.log) (.ok ())
      { w with journal := w.journal ++ records.map Entry.log }) :
    (logAll records : Act σ Unit).Gives w Q :=
  ⟨records.map Entry.log, rfl, h⟩

theorem gives_ask {question : σ → α × σ}
    (h : Q [] (.ok (question w.host).1) { w with host := (question w.host).2 }) :
    (ask question : Act σ α).Gives w Q :=
  ⟨[], (List.append_nil _).symm, h⟩

theorem gives_record {Q : Journal → Except Problem Resource → World σ → Prop} {k : Nat}
    (h : Q [] (.ok (w.store.record k)) w) : (record k : Act σ Resource).Gives w Q :=
  ⟨[], (List.append_nil _).symm, h⟩

theorem gives_editStore {Q : Journal → Except Problem Unit → World σ → Prop}
    {f : Store → Store} (h : Q [] (.ok ()) { w with store := f w.store }) :
    (editStore f : Act σ Unit).Gives w Q :=
  ⟨[], (List.append_nil _).symm, h⟩

/-! Looking at the state, or changing it, before something else. -/

section First

variable {R : Journal → Except Problem β → World σ → Prop}

theorem gives_get_bind {f : World σ → Act σ β} (h : (f w).Gives w R) :
    (get >>= f : Act σ β).Gives w R := h

theorem gives_record_bind {k : Nat} {f : Resource → Act σ β}
    (h : (f (w.store.record k)).Gives w R) : (record k >>= f : Act σ β).Gives w R := h

theorem gives_edit_bind {g : Store → Store} {f : Unit → Act σ β}
    (h : (f ()).Gives { w with store := g w.store } R) : (editStore g >>= f).Gives w R := h

theorem gives_note_bind {e : Entry} {f : Unit → Act σ β}
    (h : (f ()).Gives (w.note e) fun es o w' => R (e :: es) o w') :
    (note e >>= f).Gives w R :=
  gives_bind (gives_note h)

end First

end Rules

/-! ## 2. Relations that acts stay within -/

/-- A relation between a state, what is added to the journal, and a later
state lasts if doing nothing stays within it, and so does one thing after
another. -/
structure Lasts (R : Journal → World σ → World σ → Prop) : Prop where
  refl : ∀ w, R [] w w
  trans : ∀ {es es' w w' w''}, R es w w' → R es' w' w'' → R (es ++ es') w w''

/-- Wherever the act starts, it stays within the relation. -/
def Keeps (act : Act σ α) (R : Journal → World σ → World σ → Prop) : Prop :=
  ∀ w, act.Gives w fun es _ w' => R es w w'

section Relations

variable {act : Act σ α} {R : Journal → World σ → World σ → Prop}

/-- What is known of the second act may hang on the outcome of the first. -/
theorem Keeps.bind {f : α → Act σ β} (lasts : Lasts R) (h : act.Keeps R)
    (next : ∀ a, (f a).Keeps R) : (act >>= f).Keeps R := fun w =>
  (h w).bind (fun _ a w' hR => (next a w').mono fun _ _ _ hR' => lasts.trans hR hR')
    fun _ _ _ hR => hR

/-- What went before is added to what the act stays within. -/
theorem Keeps.after (lasts : Lasts R) (h : act.Keeps R) {es : Journal} {w w' : World σ}
    (before : R es w w') : act.Gives w' fun es' _ w'' => R (es ++ es') w w'' :=
  (h w').mono fun _ _ _ hR => lasts.trans before hR

theorem Keeps.attempt (h : act.Keeps R) : (Act.attempt act).Keeps R := fun w =>
  (h w).attempt.mono fun _ _ _ ⟨_, _, hR⟩ => hR

theorem Keeps.ensuring {last : Act σ Unit} (lasts : Lasts R) (h : act.Keeps R)
    (hlast : last.Keeps R) : (Act.ensuring act last).Keeps R := fun w =>
  (h w).ensuring fun _ _ w' hR => (hlast w').mono fun _ _ _ hR' => lasts.trans hR hR'

theorem keeps_pure (lasts : Lasts R) (a : α) : (pure a : Act σ α).Keeps R := fun w =>
  gives_pure (lasts.refl w)

theorem keeps_raise (lasts : Lasts R) (p : Problem) : (raise p : Act σ α).Keeps R := fun w =>
  gives_raise (lasts.refl w)

theorem keeps_settle (lasts : Lasts R) (outcome : Except Problem α) :
    (settle outcome : Act σ α).Keeps R := fun w =>
  gives_settle (lasts.refl w)

theorem keeps_settle_bind (lasts : Lasts R) {outcome : Except Problem α} {f : α → Act σ β}
    (h : ∀ a, outcome = .ok a → (f a).Keeps R) : (settle outcome >>= f).Keeps R := by
  cases outcome with
  | ok a => exact h a rfl
  | error p => exact keeps_raise lasts p

theorem keeps_get (lasts : Lasts R) : (get : Act σ (World σ)).Keeps R := fun w =>
  gives_get (lasts.refl w)

theorem keeps_record (lasts : Lasts R) (k : Nat) : (record k : Act σ Resource).Keeps R :=
  fun w => gives_record (lasts.refl w)

end Relations

/-! ## 3. Outcomes alone -/

/-- Wherever the act starts, its outcome is as `P` says. -/
def Ends (act : Act σ α) (P : Except Problem α → Prop) : Prop := ∀ w, P (act.runOn w).1

section Outcomes

variable {act : Act σ α} {P : Except Problem α → Prop}

theorem Ends.mono {Q : Except Problem α → Prop} (h : act.Ends P) (hPQ : ∀ o, P o → Q o) :
    act.Ends Q := fun w => hPQ _ (h w)

theorem Ends.bind {f : α → Act σ β} {Q : Except Problem β → Prop} (h : act.Ends P)
    (next : ∀ a, P (.ok a) → (f a).Ends Q) (failed : ∀ p, P (.error p) → Q (.error p)) :
    (act >>= f).Ends Q := by
  intro w
  have hw := h w
  rw [runOn_bind]
  rcases hrun : act.runOn w with ⟨p | a, w'⟩ <;> rw [hrun] at hw
  · exact failed p hw
  · exact next a hw w'

/-- An act that raises nothing, before another one. -/
theorem Ends.returned_bind {S : α → Prop} {f : α → Act σ β} {Q : Except Problem β → Prop}
    (h : act.Ends fun o => ∃ a, o = .ok a ∧ S a) (next : ∀ a, S a → (f a).Ends Q) :
    (act >>= f).Ends Q := by
  refine h.bind ?_ ?_
  · rintro a ⟨_, ho, hS⟩
    cases ho
    exact next a hS
  · rintro p ⟨_, ho, -⟩
    cases ho

/-- An act that raises nothing does not change how the next one ends. -/
theorem Ends.after {f : α → Act σ β} {Q : Except Problem β → Prop}
    (h : act.Ends fun o => ∃ a, o = .ok a) (next : ∀ a, (f a).Ends Q) : (act >>= f).Ends Q :=
  Ends.returned_bind (S := fun _ => True) (h.mono fun _ ⟨a, ho⟩ => ⟨a, ho, trivial⟩)
    fun a _ => next a

/-- Whatever an act comes to, it is a value for the next one. -/
theorem Ends.attempt_bind {f : Except Problem α → Act σ β} {Q : Except Problem β → Prop}
    (h : act.Ends P) (next : ∀ outcome, P outcome → (f outcome).Ends Q) :
    (Act.attempt act >>= f).Ends Q :=
  Ends.returned_bind (fun w => ⟨_, rfl, h w⟩) next

theorem ends_pure {a : α} (h : P (.ok a)) : (pure a : Act σ α).Ends P := fun _ => h

theorem ends_raise {p : Problem} (h : P (.error p)) : (raise p : Act σ α).Ends P := fun _ => h

theorem ends_settle {outcome : Except Problem α} (h : P outcome) :
    (settle outcome : Act σ α).Ends P := by
  cases outcome with
  | ok a => exact ends_pure h
  | error p => exact ends_raise h

theorem Ends.ensuring {last : Act σ Unit} {Q : Except Problem Unit → Prop} (h : act.Ends P)
    (hlast : last.Ends Q) {R : Except Problem α → Prop}
    (done : ∀ o o', P o → Q o' → R (o'.bind fun _ => o)) : (Act.ensuring act last).Ends R := by
  unfold Act.ensuring
  refine h.attempt_bind fun o hP => hlast.bind (fun u hQ => ?_) (fun p hQ => ?_)
  · exact ends_settle (done o (.ok u) hP hQ)
  · exact done o (.error p) hP hQ

/-- Writing into the journal raises nothing. -/
theorem ends_note {Q : Except Problem Unit → Prop} {e : Entry} (h : Q (.ok ())) :
    (note e : Act σ Unit).Ends Q := fun _ => h

theorem Ends.after_note {e : Entry} (h : act.Ends P) : (note e >>= fun _ => act).Ends P :=
  Ends.after (ends_note ⟨(), rfl⟩) fun _ => h

/-- Whatever the host answers. -/
theorem ends_ask_bind {question : σ → α × σ} {f : α → Act σ β} {Q : Except Problem β → Prop}
    (next : ∀ s, (f (question s).1).Ends Q) : (ask question >>= f).Ends Q := fun w =>
  next w.host { w with host := (question w.host).2 }

theorem ends_get_bind {f : World σ → Act σ β} {Q : Except Problem β → Prop}
    (next : ∀ w, (f w).Ends Q) : (get >>= f : Act σ β).Ends Q := fun w => next w w

/-- What is known of the outcome alone is added to a description. -/
theorem Gives.ends {w : World σ} {Q : Journal → Except Problem α → World σ → Prop}
    (h : act.Gives w Q) (he : act.Ends P) : act.Gives w fun es o w' => Q es o w' ∧ P o := by
  obtain ⟨es, hj, hQ⟩ := h
  exact ⟨es, hj, hQ, he w⟩

end Outcomes

end Act

end Upkeep
