/-
Upkeep.Proofs.Exchange — what talking to a host does to the state.

Other tasks are served while the service waits for a host, so requests for
deletion may arrive at any time. `Exchange ms` says that nothing else
happened to the store, that every request was heeded, and that the
milestones `ms` were passed.

Surroundings are `Unobtrusive` if what other tasks do in a pause is such an
exchange; `Surroundings.marking` are the surroundings in which deletions
are requested in pauses, of whatever resources and at whatever points. In
unobtrusive surroundings talking to a host is an exchange, however the host
answers, and so are opening a connection and closing it.
-/
import Upkeep.Register
import Upkeep.Proofs.Talk

namespace Upkeep

open Upkeep.Act

/-! ## 1. Records after a change -/

namespace Journal

@[simp] theorem milestones_append (a b : Journal) :
    milestones (a ++ b) = a.milestones ++ b.milestones :=
  List.filterMap_append

@[simp] theorem events_append (a b : Journal) : (a ++ b).events = a.events ++ b.events :=
  List.filterMap_append

@[simp] theorem milestones_map_log (records : List Log.Record) :
    milestones (records.map Entry.log) = [] := by
  induction records with
  | nil => rfl
  | cons r rest ih => exact ih

@[simp] theorem events_map_log (records : List Log.Record) :
    events (records.map Entry.log) = [] := by
  induction records with
  | nil => rfl
  | cons r rest ih => exact ih

/-! What a run left in its journal can be looked for. -/

theorem connected_mem_of_any {ms : List Milestone} (h : ms.any (· matches .connected) = true) :
    .connected ∈ ms := by
  obtain ⟨m, hm, hc⟩ := List.any_eq_true.mp h
  cases m <;> first | exact hm | cases hc

theorem requested_not_mem_of_all {es : Journal} {k : Nat}
    (h : es.all (! · matches .requested _) = true) : .requested k ∉ es := by
  intro asked
  cases List.all_eq_true.mp h _ asked

end Journal

namespace Store

theorem record_edit (s : Store) (k j : Nat) (f : Resource → Resource) :
    (s.edit k f).record j =
      if j = k ∧ k < s.records.length then f (s.record k) else s.record j := by
  by_cases hj : j = k
  · subst hj
    by_cases hk : j < s.records.length
    · rw [record_edit_self hk, if_pos ⟨rfl, hk⟩]
    · rw [if_neg (fun h => hk h.2)]
      have : s.records.length ≤ j := Nat.le_of_not_lt hk
      simp [record, edit, this]
  · rw [record_edit_of_ne hj, if_neg (fun h => hj h.1)]

@[simp] theorem length_edit (s : Store) (k : Nat) (f : Resource → Resource) :
    (s.edit k f).records.length = s.records.length :=
  List.length_modify ..

end Store

/-! ## 2. Exchanges -/

variable {σ : Type}

/-- Between the two states the milestones were passed, and nothing else
happened to the store than that deletions were requested. -/
structure Exchange (ms : List Milestone) (es : Journal) (w w' : World σ) : Prop where
  milestones : es.milestones = ms
  store : w'.store = { w.store with records := w'.store.records }
  length : w'.store.records.length = w.store.records.length
  record : ∀ k, w'.store.record k = w.store.record k ∨
    .requested k ∈ es ∧ w'.store.record k = { w.store.record k with deleting := true }
  heeded : ∀ k, .requested k ∈ es → k < w.store.records.length →
    (w'.store.record k).deleting = true

namespace Exchange

variable {a b : List Milestone} {es es' : Journal} {w w' w'' : World σ}

/-- The store is as it was, and no deletion was requested. -/
theorem of_store (hm : es.milestones = a) (h : w'.store = w.store)
    (unasked : ∀ k, Entry.requested k ∉ es := by simp) : Exchange a es w w' where
  milestones := hm
  store := by rw [h]
  length := by rw [h]
  record k := Or.inl (by rw [h])
  heeded k asked := absurd asked (unasked k)

/-- Something was written that touches nothing. -/
theorem note {e : Entry} (h : e.isAside = true) : Exchange [] [e] w (w.note e) := by
  cases e with
  | event => exact of_store rfl rfl
  | log => exact of_store rfl rfl
  | requested => cases h
  | milestone => cases h

/-- One milestone was passed. -/
theorem pass (m : Milestone) : Exchange [m] [.milestone m] w (w.note (.milestone m)) :=
  of_store rfl rfl

/-- A deletion was requested. -/
theorem of_request {k : Nat} (hm : es.milestones = a) (asked : .requested k ∈ es)
    (only : ∀ j, .requested j ∈ es → j = k)
    (h : w'.store = w.store.edit k fun r => { r with deleting := true }) : Exchange a es w w' where
  milestones := hm
  store := by rw [h]; rfl
  length := by rw [h, Store.length_edit]
  record j := by
    rw [h, Store.record_edit]
    split
    · rename_i hj
      exact Or.inr ⟨hj.1 ▸ asked, by rw [hj.1]⟩
    · exact Or.inl rfl
  heeded j hj hlt := by
    obtain rfl := only j hj
    rw [h, Store.record_edit_self hlt]

/-- A deletion was requested that had been requested before. -/
theorem of_repeated {k : Nat} (hm : es.milestones = a) (only : ∀ j, .requested j ∈ es → j = k)
    (deleting : (w.store.record k).deleting = true) (h : w'.store = w.store) :
    Exchange a es w w' where
  milestones := hm
  store := by rw [h]
  length := by rw [h]
  record j := Or.inl (by rw [h])
  heeded j hj _ := by rw [h, only j hj, deleting]

theorem append (h : Exchange a es w w') (h' : Exchange b es' w' w'') :
    Exchange (a ++ b) (es ++ es') w w'' where
  milestones := by rw [Journal.milestones_append, h.milestones, h'.milestones]
  store := by
    rw [h'.store, h.store]
  length := h'.length.trans h.length
  record k := by
    rcases h'.record k with same' | ⟨asked', set'⟩
    · rcases h.record k with same | ⟨asked, set⟩
      · exact Or.inl (same'.trans same)
      · exact Or.inr ⟨List.mem_append_left _ asked, same'.trans set⟩
    · refine Or.inr ⟨List.mem_append_right _ asked', ?_⟩
      rcases h.record k with same | ⟨-, set⟩
      · rw [set', same]
      · rw [set', set]
  heeded k asked hlt := by
    rcases List.mem_append.mp asked with first | second
    · have hd := h.heeded k first hlt
      rcases h'.record k with same | ⟨-, set⟩
      · rw [same, hd]
      · rw [set]
    · exact h'.heeded k second (by rw [h.length]; exact hlt)

theorem lasts : Lasts (σ := σ) (Exchange []) where
  refl _ := of_store rfl rfl
  trans h h' := h.append h'

@[simp] theorem find? (h : Exchange a es w w') (name : String) :
    w'.store.find? name = w.store.find? name := by
  rw [h.store]
  rfl

/-- A request changes nothing once deletion was requested. -/
theorem record_of_deleting (h : Exchange a es w w') {k : Nat}
    (hk : (w.store.record k).deleting = true) : w'.store.record k = w.store.record k := by
  rcases h.record k with same | ⟨-, set⟩
  · exact same
  · rw [set, ← hk]

/-- Whether cleanup was attempted is as it was. -/
theorem attempted (h : Exchange a es w w') (k : Nat) :
    (w'.store.record k).cleanupAttempted = (w.store.record k).cleanupAttempted := by
  rcases h.record k with same | ⟨-, set⟩
  · rw [same]
  · rw [set]

end Exchange

/-! ## 3. Requests in pauses -/

/-- Writing what touches nothing is an exchange. -/
theorem keeps_note {e : Entry} (h : e.isAside = true) :
    (note e : Act σ Unit).Keeps (Exchange []) := fun _ => gives_note (.note h)

theorem keeps_log {level : Log.Level} {source text : String} :
    (log level source text : Act σ Unit).Keeps (Exchange []) := keeps_note rfl

theorem keeps_event {e : Event} : (event e : Act σ Unit).Keeps (Exchange []) := keeps_note rfl

theorem keeps_logAll (records : List Log.Record) :
    (logAll records : Act σ Unit).Keeps (Exchange []) := fun _ =>
  gives_logAll (.of_store (Journal.milestones_map_log records) rfl)

/-- A request for deletion is an exchange, whatever it is about, and raises
nothing. -/
theorem Register.gives_markDeleting (name : String) (w : World σ) :
    (markDeleting name : Act σ Bool).Gives w fun es o w' =>
      (∃ known, o = .ok known) ∧ Exchange [] es w w' := by
  unfold markDeleting
  refine gives_get_bind ?_
  split
  · exact gives_pure ⟨⟨_, rfl⟩, Exchange.lasts.refl _⟩
  · rename_i k hk
    refine gives_note_bind (gives_record_bind ?_)
    split
    · refine gives_edit_bind (gives_note_bind ?_)
      exact gives_pure ⟨⟨_, rfl⟩, .of_request rfl (List.mem_cons_self ..) (by simp) rfl⟩
    · rename_i requested
      refine gives_pure ⟨⟨_, rfl⟩, .of_repeated (k := k) rfl (by simp) ?_ rfl⟩
      simpa using requested

/-- Request the deletion of all the names. -/
def Register.markAll : List String → Act σ Unit
  | [] => pure ()
  | name :: rest => do
    let _ ← markDeleting name
    markAll rest

theorem Register.gives_markAll : ∀ (names : List String) (w : World σ),
    (markAll names : Act σ Unit).Gives w fun es o w' => o = .ok () ∧ Exchange [] es w w'
  | [], w => gives_pure ⟨rfl, Exchange.lasts.refl w⟩
  | name :: rest, w => by
    unfold markAll
    refine (gives_markDeleting name w).bind ?_ ?_
    · rintro es known w' ⟨-, h⟩
      exact (gives_markAll rest w').mono fun es' o w'' ⟨ho, h'⟩ => ⟨ho, h.append h'⟩
    · rintro es p w' ⟨⟨_, ho⟩, -⟩
      cases ho

/-- What other tasks do in a pause is an exchange, and raises nothing. -/
def Surroundings.Unobtrusive (env : Surroundings σ) : Prop :=
  ∀ pause w, (env.meanwhile pause).Gives w fun es o w' => o = .ok () ∧ Exchange [] es w w'

/-- Talking to a host is an exchange in which no milestone is passed. -/
theorem Surroundings.Unobtrusive.within {env : Surroundings σ} (h : env.Unobtrusive) :
    env.Within (Exchange []) where
  lasts := Exchange.lasts
  beside _ _ _ _ := .of_store rfl rfl
  aside _ hx := .note hx
  pause pause w := (h pause w).mono fun _ _ _ hx => hx.2

/-- The surroundings where deletions are requested in pauses; of which
names, may hang on everything that is there. -/
def Surroundings.marking (env : Surroundings σ) (marks : Pause → World σ → List String) :
    Surroundings σ :=
  { env with meanwhile := fun pause => do Register.markAll (marks pause (← get)) }

theorem Surroundings.unobtrusive_marking (env : Surroundings σ)
    (marks : Pause → World σ → List String) : (env.marking marks).Unobtrusive := fun pause w =>
  gives_bind (gives_get (Register.gives_markAll (marks pause w) w))

/-! ## 4. Closing a connection -/

namespace Channel

variable {env : Surroundings σ}

theorem gives_await {α : Type} (h : env.Unobtrusive) (pause : Pause) (stage : Except Problem α)
    (w : World σ) :
    (await env pause stage).Gives w fun es o w' => o = stage ∧ Exchange [] es w w' := by
  refine (h pause w).bind ?_ ?_
  · rintro es _ w' ⟨-, hx⟩
    exact gives_settle ⟨rfl, hx.append (Exchange.lasts.refl w')⟩
  · rintro es p w' ⟨ho, -⟩
    cases ho

/-- Closing the connection ends as its milestone says. -/
theorem gives_close (h : env.Unobtrusive) (w : World σ) :
    (close env).Gives w fun es o w' =>
      (∃ s, o = (env.host.disconnect s).1) ∧ Exchange [.closed o] es w w' := by
  unfold close
  refine gives_note_bind (gives_note_bind ?_)
  refine gives_bind (gives_ask ?_)
  refine gives_note_bind ?_
  refine (gives_await h .closing _ _).mono ?_
  rintro es _ w' ⟨rfl, hx⟩
  refine ⟨⟨_, rfl⟩, ?_⟩
  have start : Exchange [.closed (env.host.disconnect w.host).1]
      [.event .disconnect, .event .awaitDisconnect,
        .milestone (.closed (env.host.disconnect w.host).1)] w
      ({ (w.note (.event .disconnect)).note (.event .awaitDisconnect) with
        host := (env.host.disconnect w.host).2 }.note
          (.milestone (.closed (env.host.disconnect w.host).1))) := .of_store rfl rfl
  exact start.append hx

/-- The first thing about closing a connection is that it is cut. -/
theorem gives_close_first (h : env.Unobtrusive) (w : World σ) :
    (close env).Gives w fun es _ _ => ∃ rest, es = .event .disconnect :: rest := by
  unfold close
  refine gives_note_bind (gives_note_bind ?_)
  refine gives_bind (gives_ask ?_)
  refine gives_note_bind ?_
  exact (gives_await h .closing _ _).mono fun es _ _ _ => ⟨_, rfl⟩

end Channel

/-! ## 5. Opening a connection -/

namespace Connection

variable {env : Surroundings σ}

/-- Up to the session that is returned, if one is, no milestone is passed
but the connection. -/
def Connects (env : Surroundings σ) (es : Journal) (o : Except Problem (Session σ))
    (w w' : World σ) : Prop :=
  match o with
  | .ok session => session = Session.over env ∧ Exchange [.connected] es w w'
  | .error _ => Exchange [] es w w'

/-- Establishing a connection is a milestone. -/
theorem arrives_exchange : Arrives (σ := σ) (Exchange []) (Exchange [.connected]) where
  connected _ := .pass .connected
  after h h' := h.append h'
  before h h' := h.append h'

/-- Opening a connection is an exchange, however the host answers. -/
theorem gives_connect (h : env.Unobtrusive) (c : Credentials) (p : Patience) (w : World σ) :
    (connect env c p).Gives w fun es o w' => Connects env es o w w' :=
  reaches_connect h.within arrives_exchange c p w

end Connection

end Upkeep
