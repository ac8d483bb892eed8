/-
Upkeep.Proofs.Run — what can happen to the store, step by step.

A `Step` is one change that the service makes to its store, with what is
written into the journal on the way; every constructor states under which
condition the service makes it. A `Run` is one step after another, and
steps that are made while a lock is held. Every request that is performed
is a run (`Service.gives_perform`), whatever the host does and whatever
deletions are requested in pauses. So what every step preserves holds of
every history of the service.

`P` holds of the credentials that may be registered.
-/
import Upkeep.Service
import Upkeep.Proofs.Phases

namespace Upkeep

open Upkeep.Act

variable {σ : Type}

/-! ## 1. Steps and runs -/

/-- Two records that differ at most in what was observed and reported. -/
structure Resource.Alike (r r' : Resource) : Prop where
  name : r'.name = r.name
  credentials : r'.credentials = r.credentials
  bundle : r'.bundle = r.bundle
  deleting : r'.deleting = r.deleting
  cleanupAttempted : r'.cleanupAttempted = r.cleanupAttempted

/-- One change to the store. -/
inductive Step (P : Json → Prop) : Journal → World σ → World σ → Prop
  /-- An exchange in which no cleanup script is handed over. -/
  | exchange {ms : List Milestone} {es : Journal} {w w' : World σ} (h : Exchange ms es w w')
      (quiet : ∀ k, .script k .cleanup ∉ ms) : Step P es w w'
  /-- Something was observed of a resource, or is reported of it. -/
  | edit {w w' : World σ} (k : Nat) (f : Resource → Resource)
      (alike : ∀ r, Resource.Alike r (f r)) (store : w'.store = w.store.edit k f) : Step P [] w w'
  /-- A resource gets other credentials and scripts. -/
  | replace {w w' : World σ} (k : Nat) (credentials : Json) (bundle : Bundle)
      (admitted : P credentials)
      (store : w'.store = w.store.edit k fun r => { r with credentials, bundle }) : Step P [] w w'
  /-- Nothing is tried any more to clean up what is being deleted. -/
  | giveUp {w w' : World σ} (k : Nat) (deleting : (w.store.record k).deleting = true)
      (store : w'.store = w.store.edit k Resource.spent) : Step P [] w w'
  /-- The cleanup script of what is being deleted is handed over, after
  having been marked as tried. -/
  | cleanup {es : Journal} {w w₁ w' : World σ} (k : Nat) (outcome : Except Problem Execution)
      (deleting : (w.store.record k).deleting = true)
      (untried : (w.store.record k).cleanupAttempted = false)
      (marked : w₁.store = w.store.edit k Resource.spent)
      (h : Exchange [.script k .cleanup, .result k .cleanup outcome] es w₁ w') : Step P es w w'
  /-- A name that is not in use is registered. -/
  | register {w w' : World σ} (r : Resource) (unknown : w.store.find? r.name = none)
      (admitted : P r.credentials) (live : r.deleting = false)
      (untried : r.cleanupAttempted = false) (store : w'.store = w.store.register r) :
      Step P [] w w'
  /-- A name is forgotten. -/
  | remove {w w' : World σ} (name : String) (store : w'.store = w.store.remove name) :
      Step P [] w w'
  /-- A lock is made. -/
  | lock {w w' : World σ} (name : String) (store : w'.store = (w.store.lock name).2) :
      Step P [] w w'

/-- One step after another, some of them while a lock is held. -/
inductive Run (P : Json → Prop) : Journal → World σ → World σ → Prop
  | refl (w : World σ) : Run P [] w w
  | step {es : Journal} {w w' : World σ} (h : Step P es w w') : Run P es w w'
  | trans {es es' : Journal} {w w' w'' : World σ} (h : Run P es w w') (h' : Run P es' w' w'') :
      Run P (es ++ es') w w''
  | holding {es : Journal} {w w₁ w₂ w' : World σ} (l : Nat) (free : w.store.isHeld l = false)
      (taken : w₁.store = w.store.acquire l) (h : Run P es w₁ w₂)
      (given : w'.store = w₂.store.release l) : Run P es w w'

namespace Run

variable {P : Json → Prop} {es : Journal} {w w' : World σ}

theorem exchange {ms : List Milestone} (h : Exchange ms es w w')
    (quiet : ∀ k, .script k .cleanup ∉ ms) : Run P es w w' := .step (.exchange h quiet)

/-- Nothing happened to the store, and no milestone was passed. -/
theorem idle (h : Exchange [] es w w') : Run P es w w' := .exchange h fun _ => List.not_mem_nil

end Run

/-! ## 2. What a run does to one incarnation -/

namespace Store

@[simp] theorem record_acquire (s : Store) (l k : Nat) : (s.acquire l).record k = s.record k := rfl

@[simp] theorem record_release (s : Store) (l k : Nat) : (s.release l).record k = s.record k := rfl

@[simp] theorem record_lock (s : Store) (name : String) (k : Nat) :
    (s.lock name).2.record k = s.record k := by
  unfold lock
  split <;> rfl

theorem record_register (s : Store) (r : Resource) (k : Nat) :
    (s.register r).record k = if k = s.records.length then r else s.record k := by
  unfold record register
  rcases Nat.lt_trichotomy k s.records.length with hk | hk | hk
  · rw [if_neg (Nat.ne_of_lt hk), List.getElem?_append_left hk]
  · rw [if_pos hk, hk, List.getElem?_concat_length]
    rfl
  · rw [if_neg (Nat.ne_of_gt hk), List.getElem?_eq_none, List.getElem?_eq_none (Nat.le_of_lt hk)]
    rw [List.length_append]
    exact hk

/-- After an edit, a record is as it was, or it is the one that was
edited. -/
theorem record_edit_cases (s : Store) (k j : Nat) (f : Resource → Resource) :
    (s.edit k f).record j = s.record j ∨ (s.edit k f).record j = f (s.record j) := by
  rw [record_edit]
  split
  · rename_i hj
    exact Or.inr (by rw [hj.1])
  · exact Or.inl rfl

theorem record_of_length_le {s : Store} {k : Nat} (h : s.records.length ≤ k) :
    s.record k = .blank := by
  rw [record, List.getElem?_eq_none h]
  rfl

theorem lt_length_of_deleting {s : Store} {k : Nat} (h : (s.record k).deleting = true) :
    k < s.records.length := by
  refine Nat.lt_of_not_le fun beyond => ?_
  rw [record_of_length_le beyond] at h
  cases h

theorem record_spent {s : Store} {k : Nat} (h : (s.record k).deleting = true) :
    (s.edit k Resource.spent).record k = (s.record k).spent :=
  record_edit_self (lt_length_of_deleting h) _

end Store

namespace Journal

@[simp] theorem scripts_append (a b : Journal) : (a ++ b).scripts = a.scripts ++ b.scripts := by
  unfold scripts
  rw [milestones_append, List.filterMap_append]

/-- The scripts that were handed over are among the milestones. -/
theorem mem_scripts {es : Journal} {k : Nat} {p : Phase} :
    (k, p) ∈ es.scripts ↔ .script k p ∈ es.milestones := by
  unfold scripts
  rw [List.mem_filterMap]
  constructor
  · rintro ⟨m, hm, hs⟩
    cases m <;> cases hs
    exact hm
  · exact fun hm => ⟨_, hm, rfl⟩

theorem mem_milestones {es : Journal} {m : Milestone} : m ∈ es.milestones ↔ .milestone m ∈ es := by
  unfold milestones
  rw [List.mem_filterMap]
  constructor
  · rintro ⟨e, he, hm⟩
    cases e <;> cases hm
    exact he
  · exact fun hm => ⟨_, hm, rfl⟩

end Journal

theorem Exchange.scripts {ms : List Milestone} {es : Journal} {w w' : World σ}
    (h : Exchange ms es w w') : es.scripts = ms.filterMap Milestone.script? := by
  rw [Journal.scripts, h.milestones]

/-- What an incarnation goes through: its deletion is requested at most
once and for good, and cleanup is attempted at most once and only then. -/
structure Guarded (k : Nat) (es : Journal) (w w' : World σ) : Prop where
  deleting : (w.store.record k).deleting = true → (w'.store.record k).deleting = true
  asked : (w'.store.record k).deleting = true →
    (w.store.record k).deleting = true ∨ .requested k ∈ es
  attempted : (w.store.record k).cleanupAttempted = true →
    (w'.store.record k).cleanupAttempted = true
  due : (w'.store.record k).cleanupAttempted = true →
    (w.store.record k).cleanupAttempted = true ∨ (w'.store.record k).deleting = true
  spent : (w.store.record k).cleanupAttempted = true → (k, .cleanup) ∉ es.scripts
  once : es.scripts.count (k, .cleanup) ≤ 1
  marked : (k, .cleanup) ∈ es.scripts → (w'.store.record k).cleanupAttempted = true
  after : ∀ before rest, es = before ++ .milestone (.script k .cleanup) :: rest →
    (w.store.record k).deleting = true ∨ .requested k ∈ before

namespace Guarded

variable {k : Nat} {es es' : Journal} {w w' w'' : World σ}

/-- No cleanup script was handed over, and the flags are as they were. -/
theorem of_same (quiet : (k, .cleanup) ∉ es.scripts)
    (deleting : (w'.store.record k).deleting = (w.store.record k).deleting)
    (attempted : (w'.store.record k).cleanupAttempted = (w.store.record k).cleanupAttempted) :
    Guarded k es w w' where
  deleting h := deleting.trans h
  asked h := Or.inl (deleting.symm.trans h)
  attempted h := attempted.trans h
  due h := Or.inl (attempted.symm.trans h)
  spent _ := quiet
  once := by rw [List.count_eq_zero.mpr quiet]; exact Nat.zero_le 1
  marked h := absurd h quiet
  after before rest h := by
    refine absurd ?_ quiet
    rw [Journal.mem_scripts, Journal.mem_milestones, h]
    exact List.mem_append_right _ (List.mem_cons_self ..)

theorem trans (h : Guarded k es w w') (h' : Guarded k es' w' w'') :
    Guarded k (es ++ es') w w'' where
  deleting hd := h'.deleting (h.deleting hd)
  asked hd := by
    rcases h'.asked hd with hd' | asked
    · exact (h.asked hd').imp_right (List.mem_append_left _)
    · exact Or.inr (List.mem_append_right _ asked)
  attempted ha := h'.attempted (h.attempted ha)
  due ha := by
    rcases h'.due ha with ha' | hd
    · exact (h.due ha').imp_right h'.deleting
    · exact Or.inr hd
  spent ha := by
    rw [Journal.scripts_append, List.mem_append]
    exact not_or_intro (h.spent ha) (h'.spent (h.attempted ha))
  once := by
    rw [Journal.scripts_append, List.count_append]
    -- a script that was handed over first leaves the mark that forbids a second one
    by_cases first : (k, .cleanup) ∈ es.scripts
    · rw [List.count_eq_zero.mpr (h'.spent (h.marked first)), Nat.add_zero]
      exact h.once
    · rw [List.count_eq_zero.mpr first, Nat.zero_add]
      exact h'.once
  marked hs := by
    rw [Journal.scripts_append, List.mem_append] at hs
    rcases hs with first | second
    · exact h'.attempted (h.marked first)
    · exact h'.marked second
  after before rest hsplit := by
    rcases List.append_eq_append_iff.mp hsplit with ⟨more, hb, he'⟩ | ⟨more, he, hr⟩
    · -- the script is among the later entries
      rcases h'.after more rest he' with hd | asked
      · rw [hb]
        exact (h.asked hd).imp_right (List.mem_append_left _)
      · rw [hb]
        exact Or.inr (List.mem_append_right _ asked)
    · cases more with
      | nil =>
        rw [List.append_nil] at he
        rcases h'.after [] rest (by simpa using hr.symm) with hd | asked
        · rw [← he]
          exact h.asked hd
        · cases asked
      | cons e more =>
        obtain ⟨he₁, -⟩ := List.cons.inj hr
        exact h.after before more (by rw [he, he₁])

theorem lasts : Lasts (σ := σ) (Guarded k) where
  refl _ := of_same List.not_mem_nil rfl rfl
  trans := trans

/-- Without an entry in the journal it is the flags that count. -/
theorem of_edit {f : Resource → Resource} {j : Nat} (store : w'.store = w.store.edit j f)
    (deleting : ∀ r, (f r).deleting = r.deleting)
    (attempted : ∀ r, (f r).cleanupAttempted = r.cleanupAttempted) : Guarded k [] w w' := by
  have same := Store.record_edit_cases w.store j k f
  rw [← store] at same
  refine of_same List.not_mem_nil ?_ ?_
  · rcases same with h | h <;> rw [h]
    exact deleting _
  · rcases same with h | h <;> rw [h]
    exact attempted _

theorem of_record (same : w'.store.record k = w.store.record k) : Guarded k [] w w' :=
  of_same List.not_mem_nil (by rw [same]) (by rw [same])

theorem of_exchange {ms : List Milestone} (h : Exchange ms es w w')
    (quiet : .script k .cleanup ∉ ms) : Guarded k es w w' := by
  have silent : (k, .cleanup) ∉ es.scripts := by
    rw [Journal.mem_scripts, h.milestones]
    exact quiet
  rcases h.record k with same | ⟨asked, set⟩
  · exact of_same silent (by rw [same]) (by rw [same])
  · -- a request sets the one flag, and leaves the other as it is
    have kept : (w'.store.record k).cleanupAttempted = (w.store.record k).cleanupAttempted := by
      rw [set]
    have base : Guarded k es w w := of_same silent rfl rfl
    exact { base with
      deleting := fun _ => by rw [set]
      asked := fun _ => Or.inr asked
      attempted := fun ha => kept.trans ha
      due := fun ha => Or.inl (kept.symm.trans ha)
      marked := fun hs => absurd hs silent }

/-- What is being deleted may be marked as cleaned up. -/
theorem of_spent {j : Nat} (deleting : (w.store.record j).deleting = true)
    (store : w'.store = w.store.edit j Resource.spent) : Guarded k [] w w' := by
  by_cases hk : k = j
  · subst hk
    have marked := Store.record_spent deleting
    rw [← store] at marked
    have still : (w'.store.record k).deleting = true := by
      rw [marked]
      exact deleting
    have base : Guarded k [] w w := of_same List.not_mem_nil rfl rfl
    exact { base with
      deleting := fun _ => still
      asked := fun _ => Or.inl deleting
      attempted := fun _ => by rw [marked]; rfl
      due := fun _ => Or.inr still
      marked := fun hs => by cases hs }
  · exact of_record (by rw [store, Store.record_edit_of_ne hk])

/-- What is being deleted may have its cleanup script handed over, once it
has been marked. -/
theorem of_cleanup {w₁ : World σ} {j : Nat} {outcome : Except Problem Execution}
    (deleting : (w.store.record j).deleting = true)
    (untried : (w.store.record j).cleanupAttempted = false)
    (marked : w₁.store = w.store.edit j Resource.spent)
    (h : Exchange [.script j .cleanup, .result j .cleanup outcome] es w₁ w') :
    Guarded k es w w' := by
  by_cases hk : k = j
  · subst hk
    have spent := Store.record_spent deleting
    rw [← marked] at spent
    have last : w'.store.record k = (w.store.record k).spent := by
      rw [← spent]
      refine h.record_of_deleting ?_
      rw [spent]
      exact deleting
    have still : (w'.store.record k).deleting = true := by
      rw [last]
      exact deleting
    have handed : es.scripts = [(k, .cleanup)] := h.scripts
    exact {
      deleting := fun _ => still
      asked := fun _ => Or.inl deleting
      attempted := fun _ => by rw [last]; rfl
      due := fun _ => Or.inr still
      spent := fun ha => by rw [untried] at ha; cases ha
      once := Nat.le_of_eq (by rw [handed, List.count_singleton_self])
      marked := fun _ => by rw [last]; rfl
      after := fun _ _ _ => Or.inl deleting }
  · have other : .script k .cleanup ∉
        [Milestone.script j .cleanup, .result j .cleanup outcome] := by
      simp [hk]
    exact (of_spent deleting marked).trans (of_exchange h other)

end Guarded

/-- Every step does to an incarnation what is allowed. -/
theorem Step.guarded {P : Json → Prop} {es : Journal} {w w' : World σ} (h : Step P es w w')
    (k : Nat) : Guarded k es w w' := by
  cases h with
  | exchange h quiet => exact .of_exchange h (quiet k)
  | edit j f alike store =>
    exact .of_edit store (fun r => (alike r).deleting) fun r => (alike r).cleanupAttempted
  | replace j credentials bundle _ store => exact .of_edit store (fun _ => rfl) fun _ => rfl
  | giveUp j deleting store => exact .of_spent deleting store
  | cleanup j outcome deleting untried marked h => exact .of_cleanup deleting untried marked h
  | register r unknown _ live untried store =>
    refine .of_same List.not_mem_nil ?_ ?_
    all_goals
      rw [store, Store.record_register]
      split
      · rename_i hk
        rw [Store.record_of_length_le (Nat.le_of_eq hk.symm)]
        assumption
      · rfl
  | remove name store => exact .of_record (by rw [store, Store.record_remove])
  | lock name store => exact .of_record (by rw [store, Store.record_lock])

namespace Run

variable {P : Json → Prop} {es : Journal} {w w' : World σ}

theorem guarded (h : Run P es w w') (k : Nat) : Guarded k es w w' := by
  induction h with
  | refl w => exact Guarded.lasts.refl w
  | step h => exact h.guarded k
  | trans _ _ ih ih' => exact ih.trans ih'
  | @holding _ w w₁ w₂ w' l _ taken _ given ih =>
    -- neither taking a lock nor giving it back touches a record
    have start : Guarded k [] w w₁ := .of_record (by rw [taken, Store.record_acquire])
    have last : Guarded k [] w₂ w' := .of_record (by rw [given, Store.record_release])
    simpa using (start.trans ih).trans last

end Run

/-! A request for the deletion of an incarnation that is there is heeded, and
what was there stays. -/

namespace Step

variable {P : Json → Prop} {es : Journal} {w w' : World σ}

theorem grows (h : Step P es w w') : w.store.records.length ≤ w'.store.records.length := by
  cases h with
  | exchange h _ => exact Nat.le_of_eq h.length.symm
  | edit _ _ _ store => exact Nat.le_of_eq (by rw [store, Store.length_edit])
  | replace _ _ _ _ store => exact Nat.le_of_eq (by rw [store, Store.length_edit])
  | giveUp _ _ store => exact Nat.le_of_eq (by rw [store, Store.length_edit])
  | cleanup _ _ _ _ marked h => exact Nat.le_of_eq (by rw [h.length, marked, Store.length_edit])
  | register r _ _ _ _ store =>
    rw [store]
    exact (List.length_append ▸ Nat.le_succ _)
  | remove _ store => rw [store]; exact Nat.le_refl _
  | lock name store =>
    rw [store, Store.lock]
    split <;> exact Nat.le_refl _

theorem heeded (h : Step P es w w') {k : Nat} (known : k < w.store.records.length)
    (asked : .requested k ∈ es) : (w'.store.record k).deleting = true := by
  cases h with
  | exchange h _ => exact h.heeded k asked known
  | cleanup _ _ _ _ marked h =>
    exact h.heeded k asked (by rw [marked, Store.length_edit]; exact known)
  | edit | replace | giveUp | register | remove | lock => cases asked

end Step

namespace Run

variable {P : Json → Prop} {es : Journal} {w w' : World σ}

theorem grows (h : Run P es w w') : w.store.records.length ≤ w'.store.records.length := by
  induction h with
  | refl w => exact Nat.le_refl _
  | step h => exact h.grows
  | trans _ _ ih ih' => exact Nat.le_trans ih ih'
  | holding l _ taken _ given ih =>
    rw [given]
    rw [taken] at ih
    exact ih

theorem heeded (h : Run P es w w') {k : Nat} (known : k < w.store.records.length)
    (asked : .requested k ∈ es) : (w'.store.record k).deleting = true := by
  induction h with
  | refl w => cases asked
  | step h => exact h.heeded known asked
  | trans h h' ih ih' =>
    rcases List.mem_append.mp asked with before | now
    · exact (h'.guarded k).deleting (ih known before)
    · exact ih' (Nat.lt_of_lt_of_le known h.grows) now
  | holding l _ taken _ given ih =>
    rw [given, Store.record_release]
    exact ih (by rw [taken]; exact known) asked

end Run

/-! ## 3. Stores in good order -/

namespace Store

/-- Cleanup was attempted only of what is being deleted. -/
def Lawful (s : Store) : Prop :=
  ∀ k, (s.record k).cleanupAttempted = true → (s.record k).deleting = true

/-- Every name leads to a record of that name. -/
def Known (s : Store) : Prop :=
  ∀ name k, s.find? name = some k → k < s.records.length ∧ (s.record k).name = name

/-- All records have admitted credentials. -/
def Admits (P : Json → Prop) (s : Store) : Prop :=
  ∀ k, k < s.records.length → P (s.record k).credentials

/-- A store between two requests: no lock is held, every name leads to its
record, and cleanup was attempted only of what is being deleted. -/
structure Sound (s : Store) : Prop where
  idle : s.held = []
  known : s.Known
  lawful : s.Lawful

theorem sound_empty : Sound {} where
  idle := rfl
  known _ _ h := by cases h
  lawful _ h := by cases h

theorem Known.edit {s : Store} (h : s.Known) {k : Nat} {f : Resource → Resource}
    (name : ∀ r, (f r).name = r.name) : (s.edit k f).Known := by
  intro n j hj
  obtain ⟨hlt, hname⟩ := h n j hj
  refine ⟨by rwa [length_edit], ?_⟩
  rcases record_edit_cases s k j f with same | changed
  · rw [same, hname]
  · rw [changed, name, hname]

theorem Known.register {s : Store} (h : s.Known) (r : Resource) : (s.register r).Known := by
  intro n j hj
  have longer : (s.register r).records.length = s.records.length + 1 := List.length_append
  by_cases hn : n = r.name
  · subst hn
    rw [find?_register_self] at hj
    cases hj
    rw [record_register, if_pos rfl, longer]
    exact ⟨Nat.lt_succ_self _, rfl⟩
  · have old : s.find? n = some j := by
      rw [← hj]
      exact (Directory.find?_bind_of_ne hn _ _).symm
    obtain ⟨hlt, hname⟩ := h n j old
    rw [record_register, if_neg (Nat.ne_of_lt hlt), longer]
    exact ⟨Nat.lt_succ_of_lt hlt, hname⟩

theorem Known.remove {s : Store} (h : s.Known) (name : String) : (s.remove name).Known := by
  intro n j hj
  by_cases hn : n = name
  · rw [hn, find?_remove_self] at hj
    cases hj
  · rw [find?_remove_of_ne hn] at hj
    exact h n j hj

theorem Admits.edit {P : Json → Prop} {s : Store} (h : s.Admits P) {k : Nat}
    {f : Resource → Resource} (credentials : ∀ r, P r.credentials → P (f r).credentials) :
    (s.edit k f).Admits P := by
  intro j hj
  rw [length_edit] at hj
  rw [record_edit]
  split
  · rename_i here
    exact credentials _ (here.1 ▸ h j hj)
  · exact h j hj

end Store

namespace Exchange

variable {ms : List Milestone} {es : Journal} {w w' : World σ}

theorem known (h : Exchange ms es w w') (hw : w.store.Known) : w'.store.Known := by
  intro name k hk
  rw [h.find?] at hk
  obtain ⟨hlt, hname⟩ := hw name k hk
  refine ⟨by rwa [h.length], ?_⟩
  rcases h.record k with same | ⟨-, set⟩
  · rw [same, hname]
  · rw [set]
    exact hname

theorem admits {P : Json → Prop} (h : Exchange ms es w w') (hw : w.store.Admits P) :
    w'.store.Admits P := by
  intro k hk
  rw [h.length] at hk
  rcases h.record k with same | ⟨-, set⟩
  · rw [same]
    exact hw k hk
  · rw [set]
    exact hw k hk

theorem held (h : Exchange ms es w w') : w'.store.held = w.store.held := by
  rw [h.store]

end Exchange

namespace Step

variable {P : Json → Prop} {es : Journal} {w w' : World σ}

theorem held (h : Step P es w w') : w'.store.held = w.store.held := by
  cases h with
  | exchange h _ => exact h.held
  | edit _ _ _ store => rw [store]; rfl
  | replace _ _ _ _ store => rw [store]; rfl
  | giveUp _ _ store => rw [store]; rfl
  | cleanup _ _ _ _ marked h => rw [h.held, marked]; rfl
  | register _ _ _ _ _ store => rw [store]; rfl
  | remove _ store => rw [store]; rfl
  | lock name store =>
    rw [store, Store.lock]
    split <;> rfl

theorem known (h : Step P es w w') (hw : w.store.Known) : w'.store.Known := by
  cases h with
  | exchange h _ => exact h.known hw
  | edit _ _ alike store => rw [store]; exact hw.edit fun r => (alike r).name
  | replace _ _ _ _ store => rw [store]; exact hw.edit fun _ => rfl
  | giveUp _ _ store => rw [store]; exact hw.edit fun _ => rfl
  | cleanup _ _ _ _ marked h =>
    refine h.known ?_
    rw [marked]
    exact hw.edit fun _ => rfl
  | register r _ _ _ _ store => rw [store]; exact hw.register r
  | remove name store => rw [store]; exact hw.remove name
  | lock name store =>
    rw [store, Store.lock]
    split <;> exact hw

theorem admits (h : Step P es w w') (hw : w.store.Admits P) : w'.store.Admits P := by
  cases h with
  | exchange h _ => exact h.admits hw
  | edit _ _ alike store =>
    rw [store]
    exact hw.edit fun r hr => by rwa [(alike r).credentials]
  | replace _ _ _ admitted store => rw [store]; exact hw.edit fun _ _ => admitted
  | giveUp _ _ store => rw [store]; exact hw.edit fun _ hr => hr
  | cleanup _ _ _ _ marked h =>
    refine h.admits ?_
    rw [marked]
    exact hw.edit fun _ hr => hr
  | register r _ admitted _ _ store =>
    rw [store]
    intro k hk
    have longer : (w.store.register r).records.length = w.store.records.length + 1 :=
      List.length_append
    rw [Store.record_register]
    split
    · exact admitted
    · exact hw k (by omega)
  | remove _ store => rw [store]; exact hw
  | lock name store =>
    rw [store, Store.lock]
    split <;> exact hw

end Step

namespace Run

variable {P : Json → Prop} {es : Journal} {w w' : World σ}

/-- A run gives back the locks that it takes. -/
theorem held (h : Run P es w w') : w'.store.held = w.store.held := by
  induction h with
  | refl w => rfl
  | step h => exact h.held
  | trans _ _ ih ih' => exact ih'.trans ih
  | @holding _ w w₁ w₂ w' l free taken _ given ih =>
    have fresh : l ∉ w.store.held := by
      simpa [Store.isHeld] using free
    rw [given, Store.release, ih, taken, Store.acquire, List.filter_cons]
    simp only [bne_self_eq_false, Bool.false_eq_true, if_false]
    refine List.filter_eq_self.mpr fun other hother => ?_
    rw [bne_iff_ne]
    rintro rfl
    exact fresh hother

theorem known (h : Run P es w w') (hw : w.store.Known) : w'.store.Known := by
  induction h with
  | refl w => exact hw
  | step h => exact h.known hw
  | trans _ _ ih ih' => exact ih' (ih hw)
  | holding l _ taken _ given ih =>
    rw [given]
    exact ih (by rw [taken]; exact hw)

theorem admits (h : Run P es w w') (hw : w.store.Admits P) : w'.store.Admits P := by
  induction h with
  | refl w => exact hw
  | step h => exact h.admits hw
  | trans _ _ ih ih' => exact ih' (ih hw)
  | holding l _ taken _ given ih =>
    rw [given]
    exact ih (by rw [taken]; exact hw)

theorem lawful (h : Run P es w w') (hw : w.store.Lawful) : w'.store.Lawful := by
  intro k ha
  rcases (h.guarded k).due ha with before | hd
  · exact (h.guarded k).deleting (hw k before)
  · exact hd

theorem sound (h : Run P es w w') (hw : w.store.Sound) : w'.store.Sound where
  idle := h.held.trans hw.idle
  known := h.known hw.known
  lawful := h.lawful hw.lawful

end Run

end Upkeep
