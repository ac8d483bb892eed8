/-
Upkeep.Proofs.Chronicle — the passes of a history.

A history of the service is told by its passes: `Chronicle` lists them, each
with the state in which it began (`Visit`), and allows in between what other
requests do. Every history has a chronicle (`Service.exists_chronicle`).

Between two passes over an incarnation little happens to it, also while
other resources are looked after: `Untouched` says what stays. A property of
one incarnation is therefore followed along a chronicle by looking at its own
passes only.
-/
import Upkeep.Proofs.Bounds
import Upkeep.Proofs.Performing

namespace Upkeep

open Upkeep.Act

variable {σ : Type}

/-! ## 1. Visits -/

/-- A pass over a name that begins in some state. -/
structure Visit (σ : Type) where
  name : String
  before : World σ

namespace Visit

variable (env : Surroundings σ) (v : Visit σ)

/-- The visit is one to this incarnation. -/
def Over (k : Nat) : Prop := v.before.store.find? v.name = some k

/-- The record with which the visit begins. -/
def record (k : Nat) : Resource := v.before.store.record k

/-- What the pass comes to. -/
def outcome : Except Problem Report := ((Pass.run env v.name).runOn v.before).1

/-- The state after the pass. -/
def after : World σ := ((Pass.run env v.name).runOn v.before).2

/-- What the pass adds to the journal. -/
def written : Journal := (v.after env).journal.drop v.before.journal.length

/-- A connection is established. -/
def Connects : Prop := .connected ∈ (v.written env).milestones

variable {env v} in
/-- What is known of a pass in its state is known of the visit. -/
theorem of_gives {Q : Journal → Except Problem Report → World σ → Prop}
    (h : (Pass.run env v.name).Gives v.before Q) :
    Q (v.written env) (v.outcome env) (v.after env) := by
  obtain ⟨es, hj, hQ⟩ := h
  have same : v.written env = es := (Act.eq_drop_of_added hj).symm
  rw [same]
  exact hQ

end Visit

/-! ## 2. Chronicles -/

/-- A history with its passes, its journal and the state that it leads to. -/
inductive Chronicle (env : Surroundings σ) (host : σ) : List (Visit σ) → Journal → World σ → Prop
  | start : Chronicle env host [] [] (Service.start host)
  /-- Nothing happens to the store but requests for deletion. -/
  | aside {visits : List (Visit σ)} {journal es : Journal} {w w' : World σ}
      (h : Chronicle env host visits journal w) (exchange : Exchange [] es w w') :
      Chronicle env host visits (journal ++ es) w'
  | put {visits : List (Visit σ)} {journal es : Journal} {w : World σ}
      (h : Chronicle env host visits journal w) (name : String) (credentials : Json)
      (bundle : Bundle)
      (added : ((Register.put name credentials bundle).runOn w).2.journal = w.journal ++ es) :
      Chronicle env host visits (journal ++ es) ((Register.put name credentials bundle).runOn w).2
  | remove {visits : List (Visit σ)} {journal es : Journal} {w : World σ}
      (h : Chronicle env host visits journal w) (name : String)
      (added : ((Register.remove name).runOn w).2.journal = w.journal ++ es) :
      Chronicle env host visits (journal ++ es) ((Register.remove name).runOn w).2
  | lock {visits : List (Visit σ)} {journal : Journal} {w : World σ}
      (h : Chronicle env host visits journal w) (name : String) :
      Chronicle env host visits journal ((Register.lock name).runOn w).2
  /-- A pass over a name. -/
  | pass {visits : List (Visit σ)} {journal : Journal} {w : World σ}
      (h : Chronicle env host visits journal w) (name : String) :
      Chronicle env host (visits ++ [⟨name, w⟩]) (journal ++ Visit.written env ⟨name, w⟩)
        (Visit.after env ⟨name, w⟩)

namespace Chronicle

variable {env : Surroundings σ} {host : σ} {visits : List (Visit σ)} {journal : Journal}
  {w : World σ}

/-- What came before a visit is a chronicle to the state in which it began. -/
theorem before (h : Chronicle env host visits journal w) {earlier later : List (Visit σ)}
    {v : Visit σ} (split : visits = earlier ++ v :: later) :
    ∃ past, Chronicle env host earlier past v.before := by
  induction h generalizing later with
  | start => exact absurd split (by simp)
  | aside _ _ ih => exact ih split
  | put _ _ _ _ _ ih => exact ih split
  | remove _ _ _ ih => exact ih split
  | lock _ _ ih => exact ih split
  | @pass visits journal w h name ih =>
    rcases List.eq_nil_or_concat later with rfl | ⟨rest, last, rfl⟩
    · obtain ⟨rfl, same⟩ := List.append_inj' split rfl
      obtain rfl := List.cons.inj same |>.1
      exact ⟨journal, h⟩
    · rw [List.concat_eq_append, ← List.cons_append, ← List.append_assoc] at split
      exact ih (List.append_inj' split rfl).1

/-- Every act of the service leads on along a chronicle. -/
def Leads (env : Surroundings σ) (host : σ) (es : Journal) (w w' : World σ) : Prop :=
  ∀ visits journal, Chronicle env host visits journal w →
    ∃ more, Chronicle env host (visits ++ more) (journal ++ es) w'

theorem lasts_leads : Lasts (Leads env host) where
  refl w visits journal h := ⟨[], by simpa using h⟩
  trans first second visits journal h := by
    obtain ⟨more, h'⟩ := first visits journal h
    obtain ⟨more', h''⟩ := second _ _ h'
    exact ⟨more ++ more', by simpa using h''⟩

end Chronicle

/-- A chronicle is led on by whatever changes the store. -/
theorem Service.invariant_leads {env : Surroundings σ} (h : env.Unobtrusive) (host : σ) :
    Invariant env (fun _ => True) (Chronicle.Leads env host) where
  lasts := Chronicle.lasts_leads
  aside exchange _ _ hc := ⟨[], by simpa using hc.aside exchange⟩
  readable _ _ := trivial
  put name credentials bundle _ w := by
    obtain ⟨es, added, -⟩ := Register.keeps_put (P := fun _ => True) name credentials bundle
      trivial w
    exact ⟨es, added, fun _ _ hc => ⟨[], by simpa using hc.put name credentials bundle added⟩⟩
  remove name w := by
    obtain ⟨es, added, -⟩ := Register.keeps_remove (P := fun _ => True) name w
    exact ⟨es, added, fun _ _ hc => ⟨[], by simpa using hc.remove name added⟩⟩
  lock name w := gives_modifyGet rfl fun visits journal hc => ⟨[], by
    rw [List.append_nil, List.append_nil]
    exact hc.lock name⟩
  pass name w := by
    have noted : (Pass.run env name).Gives w fun _ _ _ => True :=
      (Pass.keeps_run (P := fun _ => True) h name w).mono fun _ _ _ _ => trivial
    obtain ⟨es, added, -⟩ := noted
    have same : Visit.written env ⟨name, w⟩ = es := (Act.eq_drop_of_added added).symm
    exact ⟨es, added, fun _ _ hc => ⟨[⟨name, w⟩], same ▸ hc.pass name⟩⟩

/-- Every history has a chronicle. -/
theorem Service.exists_chronicle {env : Surroundings σ} (h : env.Unobtrusive) (host : σ)
    (requests : List Request) : ∃ visits, Chronicle env host visits
      (serve env (start host) requests).journal (serve env (start host) requests) := by
  obtain ⟨es, added, leads⟩ := exists_serve (invariant_leads h host) requests (start host)
    (admits_any requests)
  obtain ⟨visits, hc⟩ := leads [] [] .start
  refine ⟨visits, ?_⟩
  rw [added]
  exact hc

/-! ## 3. What stays in between -/

/-- The milestone is about a script of the incarnation. -/
def Milestone.About (k : Nat) : Milestone → Prop
  | .script j _ | .result j _ _ => j = k
  | .connected | .closed _ => False

theorem Milestone.Of.not_about {m : Milestone} {j k : Nat} (own : m.Of j) (hne : j ≠ k) :
    ¬ m.About k := by
  cases m with
  | script => exact fun about => hne (Eq.trans (Eq.symm own) about)
  | result => exact fun about => hne (Eq.trans (Eq.symm own) about)
  | connected => exact id
  | closed => exact id

/-- Where no milestone was passed, there is none about anything. -/
theorem Milestone.not_about_of_silent {es : Journal} (silent : es.milestones = []) (k : Nat) :
    ∀ m ∈ es.milestones, ¬ m.About k := by
  intro m hm
  rw [silent] at hm
  cases hm

/-- Nothing was done about incarnation `k` but that its deletion may have been
requested; if it began, nothing has been created for it. -/
structure Untouched (k : Nat) (es : Journal) (w w' : World σ) : Prop where
  grows : w.store.records.length ≤ w'.store.records.length
  created : k < w.store.records.length →
    (w'.store.record k).observation.created = (w.store.record k).observation.created
  fresh : w.store.records.length ≤ k → k < w'.store.records.length →
    (w'.store.record k).observation.created = false
  deleting : (w.store.record k).deleting = true → (w'.store.record k).deleting = true
  apart : ∀ m ∈ es.milestones, ¬ m.About k

namespace Untouched

variable {k : Nat} {es : Journal} {w w' : World σ}

/-- The record is as it was. -/
theorem of_record (length : w'.store.records.length = w.store.records.length)
    (created : (w'.store.record k).observation.created = (w.store.record k).observation.created)
    (deleting : (w.store.record k).deleting = true → (w'.store.record k).deleting = true)
    (apart : ∀ m ∈ es.milestones, ¬ m.About k) : Untouched k es w w' where
  grows := Nat.le_of_eq length.symm
  created _ := created
  fresh beyond known := absurd beyond (Nat.not_le_of_lt (length ▸ known))
  deleting := deleting
  apart := apart

theorem of_store (silent : es.milestones = []) (h : w'.store = w.store) : Untouched k es w w' :=
  .of_record (by rw [h]) (by rw [h]) (by rw [h]; exact id) (Milestone.not_about_of_silent silent k)

theorem of_agrees (silent : es.milestones = []) (h : w.store.Agrees w'.store) :
    Untouched k es w w' :=
  .of_record (by rw [h.records]) (by rw [h.record]) (by rw [h.record]; exact id)
    (Milestone.not_about_of_silent silent k)

/-- A record was edited, but neither its flag nor whether the resource was
created. -/
theorem of_edit {j : Nat} {f : Resource → Resource} (silent : es.milestones = [])
    (h : w'.store = w.store.edit j f) (deleting : ∀ r, (f r).deleting = r.deleting)
    (created : ∀ r, (f r).observation.created = r.observation.created) :
    Untouched k es w w' := by
  have record := Store.record_edit_cases w.store j k f
  rw [← h] at record
  refine .of_record (by rw [h, Store.length_edit]) ?_ ?_ (Milestone.not_about_of_silent silent k)
  · rcases record with same | changed
    · rw [same]
    · rw [changed, created]
  · rcases record with same | changed
    · rw [same]
      exact id
    · rw [changed, deleting]
      exact id

theorem of_exchange (h : Exchange [] es w w') : Untouched k es w w' := by
  refine .of_record h.length ?_ (fun hd => ?_) (Milestone.not_about_of_silent h.milestones k)
  · rcases h.record k with same | ⟨-, set⟩
    · rw [same]
    · rw [set]
  · rw [h.record_of_deleting hd]
    exact hd

theorem lasts : Lasts (σ := σ) (Untouched k) where
  refl _ := .of_store rfl rfl
  trans := by
    intro es es' w w₁ w' h h'
    refine ⟨Nat.le_trans h.grows h'.grows, fun known => ?_, fun beyond known => ?_,
      fun hd => h'.deleting (h.deleting hd), fun m hm => ?_⟩
    · exact (h'.created (Nat.lt_of_lt_of_le known h.grows)).trans (h.created known)
    · by_cases begun : k < w₁.store.records.length
      · exact (h'.created begun).trans (h.fresh beyond begun)
      · exact h'.fresh (Nat.le_of_not_lt begun) known
    · rw [Journal.milestones_append] at hm
      rcases List.mem_append.mp hm with before | now
      · exact h.apart m before
      · exact h'.apart m now

end Untouched

namespace Register

theorem untouched_put (k : Nat) (name : String) (credentials : Json) (bundle : Bundle) :
    (put name credentials bundle : Act σ Unit).Keeps (Untouched k) := by
  have lasts := Untouched.lasts (σ := σ) (k := k)
  have said {level : Log.Level} {source text : String} :
      (log level source text : Act σ Unit).Keeps (Untouched k) := fun _ =>
    gives_note (.of_store rfl rfl)
  intro w
  unfold put
  refine gives_underLock_of_relock lasts (fun _ _ same => .of_agrees rfl same) fun w₁ _ => ?_
  refine gives_get_bind ?_
  split
  · refine (said.bind lasts fun _ => ?_) w₁
    intro w₂
    refine gives_editStore ?_
    have longer : (w₂.store.register ⟨name, credentials, bundle, {}, false, false, .none, none,
        none⟩).records.length = w₂.store.records.length + 1 := List.length_append
    refine ⟨?_, ?_, ?_, ?_, Milestone.not_about_of_silent rfl k⟩
    · rw [longer]
      exact Nat.le_succ _
    · intro known
      rw [Store.record_register, if_neg (Nat.ne_of_lt known)]
    · intro beyond known
      rw [longer] at known
      rw [Store.record_register, if_pos (Nat.le_antisymm (Nat.le_of_lt_succ known) beyond)]
    · intro hd
      rw [Store.record_register, if_neg (Nat.ne_of_lt (Store.lt_length_of_deleting hd))]
      exact hd
  · refine Keeps.bind lasts (fun w₂ => gives_editStore ?_) (fun _ => said) w₁
    exact .of_edit rfl rfl (fun _ => rfl) fun _ => rfl

theorem untouched_remove (k : Nat) (name : String) :
    (remove name : Act σ Unit).Keeps (Untouched k) := fun w =>
  (Pass.gives_remove name w).mono fun _ _ _ ⟨_, silent, _, store⟩ =>
    .of_record (by rw [store]; rfl) (by rw [store]; rfl) (by rw [store]; exact id)
      (Milestone.not_about_of_silent silent k)

end Register

namespace Pass

variable {env : Surroundings σ} {name : String} {j k : Nat}

/-- A pass over one incarnation leaves the others alone. -/
theorem sessionBounds_untouched (h : env.Unobtrusive) (hne : j ≠ k) :
    SessionBounds env name j (Untouched k) where
  lasts := Untouched.lasts
  beside _ _ _ _ := .of_store rfl rfl
  aside _ hx := .of_exchange (.note hx)
  pause p w := (h p w).mono fun _ _ _ hx => .of_exchange hx.2
  milestone w own := .of_record rfl rfl id fun m hm => by
    obtain rfl := List.mem_singleton.mp hm
    exact own.not_about hne
  edit quiet w := .of_edit rfl rfl (fun r => (quiet.request r).deleting)
    fun r => (quiet.output r).created
  forget _ hR := {
    grows := hR.grows
    created := hR.created
    fresh := hR.fresh
    deleting := hR.deleting
    apart := hR.apart }
  observe seen w := by
    have same := Store.record_edit_of_ne (s := w.store) hne.symm
      fun r => { r with observation := seen }
    refine .of_record (Store.length_edit ..) ?_ ?_ (Milestone.not_about_of_silent rfl k)
    · rw [same]
    · rw [same]
      exact id

end Pass

end Upkeep
