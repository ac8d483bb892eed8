/-
Upkeep.Proofs.Histories — what holds of everything that the service does.

A relation between a state, what is written meanwhile and a later state is an
*invariant* of the service (`Service.Invariant`) if it lasts and if the acts
that change the store stay within it: registering and removing a name,
making a lock, a pass, and everything that leaves the store alone but for
requests for deletion. Then whatever is requested stays within it
(`Service.keeps_perform`), and so does every history
(`Service.exists_serve`).

`P` holds of the credentials that may be registered.
-/
import Upkeep.Service
import Upkeep.Proofs.Exchange

namespace Upkeep

open Upkeep.Act

variable {σ : Type}

/-! ## 1. Credentials -/

namespace Credentials

/-- Credentials that can be read. -/
def Readable (depths : Json.Depths) (j : Json) : Prop :=
  ∃ c, (ofPayload (.value j) depths).2 = .ok c

variable {depths : Json.Depths}

/-- No text is a mapping and a document at once. -/
theorem not_readable_text {s : String} {fields : List (String × Json)}
    (h : (Json.text s).fields = .ok fields) : ¬ Readable depths (.text s) := by
  rintro ⟨c, hc⟩
  have items : (Json.text s).fields =
      Json.fieldsOfPairs 0 [] (s.toList.map fun ch => .text ch.toString) := rfl
  rw [items] at h
  rcases hs : s.toList with _ | ⟨ch, rest⟩
  · -- the empty text is no document
    rw [ofPayload, fieldsOf, hs] at hc
    cases hc
  · -- a character is no pair
    rw [hs, List.map_cons, Json.fieldsOfPairs] at h
    have one : (Json.text ch.toString).items? = some [.text ch.toString] := by
      simp [Json.items?, Char.toString]
    rw [Json.pairOf, one] at h
    cases h

/-- What is kept of readable credentials is readable. -/
theorem readable_fields {j : Json} (h : Readable depths j) {fields : List (String × Json)}
    (hf : j.fields = .ok fields) : Readable depths (.object fields) := by
  obtain ⟨c, hc⟩ := h
  have same : fieldsOf (.value j) depths = .ok fields := by
    cases j with
    | text s => exact absurd ⟨c, hc⟩ (not_readable_text hf)
    | _ => simp only [fieldsOf, hf]; rfl
  refine ⟨c, ?_⟩
  rw [ofPayload, same] at hc
  exact hc

end Credentials

/-! ## 2. Invariants -/

/-- A relation that the acts stay within that change the store. -/
structure Service.Invariant (env : Surroundings σ) (P : Json → Prop)
    (R : Journal → World σ → World σ → Prop) : Prop where
  lasts : Lasts R
  aside : ∀ {es w w'}, Exchange [] es w w' → R es w w'
  readable : ∀ j, Credentials.Readable env.depths j → P j
  put : ∀ name credentials bundle, P credentials → (Register.put name credentials bundle).Keeps R
  remove : ∀ name, (Register.remove name).Keeps R
  lock : ∀ name, (Register.lock name).Keeps R
  pass : ∀ name, (Pass.run env name).Keeps R

variable {env : Surroundings σ} {P : Json → Prop} {R : Journal → World σ → World σ → Prop}

namespace Service.Invariant

theorem keeps {α : Type} (inv : Invariant env P R) {act : Act σ α}
    (h : act.Keeps (Exchange [])) : act.Keeps R := fun w =>
  (h w).mono fun _ _ _ => inv.aside

theorem markDeleting (inv : Invariant env P R) (name : String) :
    (Register.markDeleting name).Keeps R := fun w =>
  (Register.gives_markDeleting name w).mono fun _ _ _ h => inv.aside h.2

theorem shareLock (inv : Invariant env P R) (name other : String) :
    (Register.shareLock name other).Keeps R := by
  unfold Register.shareLock
  refine (inv.lock name).bind inv.lasts fun _ => ?_
  exact (inv.lock other).bind inv.lasts fun _ => keeps_pure inv.lasts _

end Service.Invariant

variable (inv : Service.Invariant env P R)

/-! ## 3. Sweeps -/

namespace Sweep

include inv

theorem keeps_passes :
    ∀ names, (passes env names).Keeps R
  | [] => keeps_pure inv.lasts _
  | name :: rest => by
    have lasts := inv.lasts
    unfold passes
    refine (inv.pass name).attempt.bind lasts fun outcome => ?_
    exact (keeps_passes rest).bind lasts fun _ => keeps_pure lasts _

theorem keeps_collect : ∀ outcomes, (collect outcomes : Act σ _).Keeps R
  | [] => keeps_pure inv.lasts _
  | (_, .ok report) :: rest => by
    unfold collect
    exact (keeps_collect rest).bind inv.lasts fun _ => keeps_pure inv.lasts _
  | (name, .error p) :: rest => by
    unfold collect
    split
    · exact (inv.keeps keeps_log).bind inv.lasts fun _ => keeps_collect rest
    · exact keeps_collect rest

theorem keeps_run : (run env).Keeps R := by
  have lasts := inv.lasts
  unfold run
  refine (keeps_get lasts).bind lasts fun w => ?_
  dsimp only
  split
  · exact keeps_pure lasts _
  · refine (keeps_passes inv _).bind lasts fun outcomes => ?_
    refine (keeps_collect inv outcomes).bind lasts fun reports => ?_
    split
    · exact (inv.keeps keeps_log).bind lasts fun _ => keeps_pure lasts _
    · exact keeps_pure lasts _

/-- Changing what is beside the store. -/
theorem keeps_aside {f : World σ → World σ} (journal : ∀ w, (f w).journal = w.journal)
    (store : ∀ w, (f w).store = w.store) : (modify f : Act σ Unit).Keeps R := fun w =>
  gives_modify (journal w) (inv.aside (.of_store rfl (store w)))

theorem keeps_start (given : Option Decimal.Number) : (start env given).Keeps R := by
  have lasts := inv.lasts
  unfold start
  dsimp only
  split
  · exact inv.keeps keeps_log
  · refine (keeps_get lasts).bind lasts fun w => ?_
    split
    · refine Keeps.bind lasts (keeps_aside inv ?_ ?_) fun _ => ?_
      · exact fun _ => rfl
      · exact fun _ => rfl
      · exact (inv.keeps keeps_log).bind lasts fun _ => (inv.keeps keeps_event)
    · exact keeps_pure lasts _

theorem keeps_tick : ∀ count, (tick env count).Keeps R
  | 0 => keeps_pure inv.lasts _
  | count + 1 => by
    have lasts := inv.lasts
    unfold tick
    refine (keeps_get lasts).bind lasts fun w => ?_
    split
    · exact keeps_pure lasts _
    · refine (keeps_run inv).bind lasts fun _ => ?_
      exact (inv.keeps keeps_event).bind lasts fun _ => keeps_tick count

theorem keeps_stop : (stop : Act σ Unit).Keeps R := by
  have lasts := inv.lasts
  have stopped : (modify fun w : World σ => { w with polling := none } : Act σ Unit).Keeps R :=
    keeps_aside inv (fun _ => rfl) fun _ => rfl
  unfold stop
  refine (keeps_get lasts).bind lasts fun w => ?_
  split
  · exact (inv.keeps keeps_log).bind lasts fun _ => stopped
  · exact stopped

theorem keeps_isPolling : (isPolling : Act σ Bool).Keeps R :=
  (keeps_get inv.lasts).bind inv.lasts fun _ => keeps_pure inv.lasts _

end Sweep

/-! ## 4. Requests -/

/-- Whatever credentials the request registers unchecked are admitted. -/
def Request.Admits (P : Json → Prop) : Request → Prop
  | .put _ credentials _ => P credentials
  | _ => True

namespace Service

include inv

theorem keeps_answer (name : String) (report : Report) :
    (answer name report : Act σ String).Keeps R :=
  (keeps_get inv.lasts).bind inv.lasts fun _ => keeps_pure inv.lasts _

/-- Credentials that a client registers have been read. -/
theorem keeps_apply
    (wish : Application) : (apply env wish).Keeps R := by
  have lasts := inv.lasts
  unfold apply
  dsimp only
  refine (inv.keeps (keeps_logAll _)).bind lasts fun _ => ?_
  refine keeps_settle_bind lasts fun c hc => ?_
  refine (keeps_settle lasts _).bind lasts fun bundle => ?_
  refine (keeps_get lasts).bind lasts fun w => ?_
  split
  · exact keeps_pure lasts _
  · refine keeps_settle_bind lasts fun fields hf => ?_
    have given : wish.credentials.fields = .ok fields := by
      rcases hw : wish.credentials.fields with f | fields' <;> rw [hw] at hf <;> cases hf
      rfl
    have admitted := inv.readable _ (Credentials.readable_fields ⟨c, hc⟩ given)
    refine (inv.put _ _ _ admitted).bind lasts fun _ => ?_
    split
    · exact (inv.pass _).bind lasts fun report => keeps_answer inv _ report
    · exact keeps_pure lasts _

theorem keeps_passFor (name otherwise : String) :
    (passFor env name otherwise).Keeps R := by
  have lasts := inv.lasts
  unfold passFor
  refine (inv.pass name).attempt.bind lasts fun outcome => ?_
  rcases outcome with p | report
  · dsimp only
    split
    · exact keeps_pure lasts _
    · exact keeps_raise lasts _
  · exact keeps_answer inv name report

theorem keeps_call :
    ∀ c, (call env c).Keeps R := by
  have lasts := inv.lasts
  intro c
  cases c with
  | apply wish => exact keeps_apply inv wish
  | reconcile name =>
    refine (keeps_get lasts).bind lasts fun w => ?_
    split
    · exact keeps_pure lasts _
    · exact keeps_passFor inv name _
  | status name =>
    refine (keeps_get lasts).bind lasts fun w => ?_
    split <;> exact keeps_pure lasts _
  | delete name =>
    refine (inv.markDeleting name).bind lasts fun known => ?_
    split
    · exact keeps_passFor inv name _
    · exact keeps_pure lasts _
  | list =>
    refine (keeps_get lasts).bind lasts fun w => ?_
    dsimp only
    split <;> exact keeps_pure lasts _
  | misfit why => exact keeps_raise lasts _

theorem keeps_guarded
    (method : Option String) (c : Call) : (guarded env method c).Keeps R := by
  have lasts := inv.lasts
  unfold guarded
  refine (keeps_call inv c).attempt.bind lasts fun outcome => ?_
  refine (keeps_get lasts).bind lasts fun w => ?_
  dsimp only
  refine Keeps.bind lasts (Sweep.keeps_aside inv ?_ ?_) fun _ => ?_
  · exact fun _ => rfl
  · exact fun _ => rfl
  · exact (inv.keeps (keeps_logAll _)).bind lasts fun _ => keeps_settle lasts _

theorem keeps_say (text : String) : (say text : Act σ Unit).Keeps R := inv.keeps keeps_log

theorem keeps_shutdown : (shutdown : Act σ Unit).Keeps R := by
  have lasts := inv.lasts
  unfold shutdown
  refine (keeps_say inv _).bind lasts fun _ => ?_
  refine (Sweep.keeps_stop inv).bind lasts fun _ => ?_
  refine (keeps_get lasts).bind lasts fun w => ?_
  dsimp only
  split
  · exact (keeps_say inv _).bind lasts fun _ => keeps_say inv _
  · exact keeps_say inv _

/-- Whatever is requested, the service stays within the relation. -/
theorem keeps_perform
    (r : Request) (admitted : r.Admits P) : (perform env r).Keeps R := by
  have lasts := inv.lasts
  have said {α : Type} {act : Act σ α} (hact : act.Keeps R) (reply : α → Reply) :
      (act >>= fun a => pure (reply a)).Keeps R :=
    hact.bind lasts fun _ => keeps_pure lasts _
  have polling {act : Act σ Unit} (hact : act.Keeps R) :
      (act >>= fun _ => Sweep.isPolling >>= fun b => pure (.polling b) : Act σ Reply).Keeps R :=
    hact.bind lasts fun _ => said (Sweep.keeps_isPolling inv) _
  cases r with
  | put name credentials bundle =>
    exact said (inv.put name credentials bundle admitted) fun _ => .bundle bundle
  | get name => exact said (keeps_get lasts) fun w => .resource (w.store.get? name)
  | markDeleting name => exact said (inv.markDeleting name) .known
  | remove name => exact said (inv.remove name) fun _ => .done
  | shareLock name other => exact said (inv.shareLock name other) .sameLock
  | reconcile name => exact said (inv.pass name) .report
  | reconcileAll => exact said (Sweep.keeps_run inv) .reports
  | call c => exact said (keeps_call inv c) .text
  | guarded method c => exact said (keeps_guarded inv method c) .text
  | errorCounts => exact said (keeps_get lasts) fun w => .counts w.boundary.counts
  | resetErrorCounts =>
    refine said (Sweep.keeps_aside inv ?_ ?_) fun _ => .done
    · exact fun _ => rfl
    · exact fun _ => rfl
  | startPolling interval => exact polling (Sweep.keeps_start inv interval)
  | tick count => exact polling (Sweep.keeps_tick inv count)
  | stopPolling => exact polling (Sweep.keeps_stop inv)
  | startup interval =>
    refine said ?_ fun _ => .started interval
    refine (keeps_say inv _).bind lasts fun _ => ?_
    exact (Sweep.keeps_start inv _).bind lasts fun _ => keeps_say inv _
  | shutdown => exact polling (keeps_shutdown inv)

/-! ## 5. Histories -/

/-- The state after some requests, whatever their outcomes. -/
def serve (env : Surroundings σ) (w : World σ) (requests : List Request) : World σ :=
  requests.foldl (fun w r => ((perform env r).runOn w).2) w

/-- What the requests write is added to the journal, and together they stay
within the relation. -/
theorem exists_serve : ∀ (requests : List Request) (w : World σ),
    (∀ r ∈ requests, r.Admits P) →
      ∃ written, (serve env w requests).journal = w.journal ++ written ∧
        R written w (serve env w requests)
  | [], w, _ => ⟨[], (List.append_nil _).symm, inv.lasts.refl w⟩
  | r :: rest, w, admitted => by
    obtain ⟨es, hj, first⟩ := keeps_perform inv r (admitted r (List.mem_cons_self ..)) w
    obtain ⟨es', hj', later⟩ := exists_serve rest ((perform env r).runOn w).2
      fun r hr => admitted r (List.mem_cons_of_mem _ hr)
    refine ⟨es ++ es', ?_, inv.lasts.trans first later⟩
    rw [← List.append_assoc, ← hj]
    exact hj'

/-- The service begins with nothing registered. -/
def start (host : σ) : World σ := { host }

omit inv in
/-- Any credentials may be registered. -/
theorem admits_any (requests : List Request) : ∀ r ∈ requests, r.Admits fun _ => True := by
  intro r _
  cases r <;> trivial

end Service

end Upkeep
