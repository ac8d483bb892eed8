/-
Upkeep.Proofs.Discretion — secrets are not told.

Two histories of requests are compared that differ in secrets alone: request
by request (`Request.Twin`), in surroundings that do not tell secrets apart
(`Surroundings.Twins`), from states that are equal under the veil. The main
statement is that they look alike from outside (`Service.LookAlike`): the
same answers and the same problems, the same log, the same documents and the
same displays, and the same events but for what a login offers.

It is read off the states: one request keeps them equal under the veil
(`Service.twins_perform`), so a history does (`Service.twins_serve`). What
the host answers is no part of the service, so that it does not hang on
secrets is assumed; of every rehearsal it is true, whatever is prepared
(`Rehearsal.twins_around`).
-/
import Mathlib.Data.List.Forall2
import Upkeep.Proofs.Histories
import Upkeep.Proofs.Orderly
import Upkeep.Proofs.Twins
import Upkeep.Rehearsal

namespace Upkeep

open Upkeep.Act

variable {σ : Type} {env env' : Surroundings σ} (h : env.Twins env')

/-! ## 1. Sweeps -/

namespace Sweep

theorem alike_collect : ∀ outcomes, (collect outcomes : Act σ _).Alike (collect outcomes)
  | [] => alike_pure _
  | (_, .ok report) :: rest => by
    unfold collect
    exact (alike_collect rest).bind fun _ => alike_pure _
  | (name, .error p) :: rest => by
    unfold collect
    split
    · exact alike_log.bind fun _ => alike_collect rest
    · exact alike_collect rest

theorem alike_stop : (stop : Act σ Unit).Alike stop := by
  have stopped : (modify fun w : World σ => { w with polling := none } : Act σ Unit).Alike
      (modify fun w => { w with polling := none }) :=
    alike_modify fun _ => rfl
  unfold stop
  refine twins_get_bind fun w journal records _ => ?_
  exact Twins.ite Iff.rfl (fun _ => alike_log.bind fun _ => stopped) fun _ => stopped

theorem alike_isPolling : (isPolling : Act σ Bool).Alike isPolling :=
  twins_get_bind fun _ _ _ _ => alike_pure _

include h

theorem alike_passes : ∀ names, (passes env names).Alike (passes env' names)
  | [] => alike_pure _
  | name :: rest => by
    unfold passes
    refine (Pass.alike_run h name).attempt.bind fun outcome => ?_
    exact (alike_passes rest).bind fun _ => alike_pure _

theorem alike_run : (run env).Alike (run env') := by
  unfold run
  refine twins_get_bind fun w journal records _ => ?_
  refine Twins.ite Iff.rfl (fun _ => alike_pure _) fun _ => ?_
  refine (alike_passes h _).bind fun outcomes => ?_
  refine (alike_collect outcomes).bind fun reports => ?_
  dsimp only
  split
  · exact alike_log.bind fun _ => alike_pure _
  · exact alike_pure _

theorem alike_start (given : Option Decimal.Number) :
    (start env given).Alike (start env' given) := by
  have started (every : Decimal.Number) :
      (modify fun w : World σ => { w with polling := some every } : Act σ Unit).Alike
        (modify fun w => { w with polling := some every }) :=
    alike_modify fun _ => rfl
  unfold start interval
  rw [h.settings]
  dsimp only
  split
  · exact alike_log
  · refine twins_get_bind fun w journal records _ => ?_
    refine Twins.ite Iff.rfl (fun _ => ?_) fun _ => alike_pure ()
    exact (started _).bind fun _ => alike_log.bind fun _ => alike_event

theorem alike_tick : ∀ count, (tick env count).Alike (tick env' count)
  | 0 => alike_pure ()
  | count + 1 => by
    unfold tick
    refine twins_get_bind fun w journal records _ => ?_
    dsimp only
    split
    · exact alike_pure ()
    · refine (alike_run h).bind fun _ => ?_
      exact alike_event.bind fun _ => alike_tick count

end Sweep

/-! ## 2. Calls -/

/-- Two values of a field of credentials that differ in a secret alone: both
are passwords, or both encode a key. -/
def Credentials.FieldTwin (key : String) (j j' : Json) : Prop :=
  j = j' ∨ (key = "password" ∧ isPassword j = true ∧ isPassword j' = true) ∨
    (key = "privateKey" ∧ encodesKey j = true ∧ encodesKey j' = true)

/-- Credentials that differ in secrets alone. -/
inductive Credentials.Twin : Json → Json → Prop
  | same (j : Json) : Twin j j
  | mapping {fields fields' : List (String × Json)}
      (twins : List.Forall₂ (fun e e' => e.1 = e'.1 ∧ FieldTwin e.1 e.2 e'.2) fields fields') :
      Twin (.object fields) (.object fields')

/-- Calls that differ in secrets alone. -/
inductive Call.Twin : Call → Call → Prop
  | same (c : Call) : Twin c c
  | apply {wish : Application} {credentials : Json}
      (twins : Credentials.Twin wish.credentials credentials) :
      Twin (.apply wish) (.apply { wish with credentials })

namespace Credentials

theorem FieldTwin.veil {key : String} {j j' : Json} (twins : FieldTwin key j j') :
    veilField key j = veilField key j' := by
  rcases twins with rfl | ⟨rfl, password, password'⟩ | ⟨rfl, encodes, encodes'⟩
  · rfl
  · simp [veilField, veilPassword, password, password']
  · simp [veilField, veilKey, encodes, encodes']

/-- Credentials that differ in secrets alone are the same under the veil. -/
theorem Twin.veil {j j' : Json} (twins : Twin j j') : veilDocument j = veilDocument j' := by
  cases twins with
  | same => rfl
  | mapping twins =>
    refine congrArg Json.object ?_
    induction twins with
    | nil => rfl
    | cons one _ ih =>
      obtain ⟨key, value⟩ := one
      unfold veilFields at ih ⊢
      rw [List.map_cons, List.map_cons, ih, value.veil, key]

/-- What is registered of credentials differs in their secrets alone. -/
theorem fields_of_veil {j j' : Json} (same : veilDocument j = veilDocument j') :
    Outcomes (fun fields fields' => veilFields fields = veilFields fields')
      (j.fields.mapError Problem.fault) (j'.fields.mapError Problem.fault) := by
  obtain rfl | ⟨fields, fields', rfl, rfl, alike⟩ := eq_or_fields_of_veil same
  · exact outcomes_iff_map.mpr rfl
  · exact .ok alike

end Credentials

namespace Service

/-- What is told of a report says nothing about secrets. -/
theorem alike_answer (name : String) (report : Report) :
    (answer name report : Act σ String).Alike (answer name report) := by
  unfold answer
  refine twins_get_bind fun w journal records stores => twins_pure ?_
  have told (o : Option Resource) : report.text o = report.text (o.map Resource.veil) := by
    cases o <;> rfl
  rw [told, Store.get?_of_veil stores, ← told]

theorem alike_status (name : String) : (status name : Act σ String).Alike (status name) := by
  unfold status
  refine twins_get_bind fun w journal records stores => ?_
  have documents := Store.map_get?_of_veil (f := Resource.toDocument) (fun _ => rfl) stores name
  dsimp only
  rcases hr : w.store.get? name with _ | r <;>
    rcases hr' : Store.get? { w.store with records } name with _ | r' <;>
    rw [hr, hr'] at documents
  · exact alike_pure _
  · cases documents
  · cases documents
  · have shown : r.toDocument = r'.toDocument := Option.some.inj documents
    exact twins_pure (congrArg Json.pretty shown)

theorem alike_list : (list : Act σ String).Alike list := by
  unfold list
  refine twins_get_bind fun w journal records stores => ?_
  have lines : line w.store = line { w.store with records } := by
    funext name
    exact Store.map_get?_of_veil (fun _ => rfl) stores name
  refine Twins.ite Iff.rfl (fun _ => alike_pure _) fun _ => twins_pure ?_
  rw [lines]
  rfl

include h

theorem alike_passFor (name otherwise : String) :
    (passFor env name otherwise).Alike (passFor env' name otherwise) := by
  unfold passFor
  refine (Pass.alike_run h name).attempt.bind fun outcome => ?_
  rcases outcome with p | report
  · dsimp only
    split
    · exact alike_pure _
    · exact twins_raise _
  · exact alike_answer name report

/-- Credentials that differ in their secrets alone are refused alike, or both
are accepted. -/
theorem alike_apply {wish : Application} {credentials : Json}
    (same : Credentials.veilDocument wish.credentials = Credentials.veilDocument credentials) :
    (apply env wish).Alike (apply env' { wish with credentials }) := by
  obtain ⟨records, read⟩ := Credentials.ofPayload_of_veil env.depths same
  unfold apply
  rw [h.depths]
  dsimp only
  rw [← records]
  refine (alike_logAll _).bind fun _ => ?_
  refine (twins_settle (outcomes_iff_map.mpr read)).bind fun _ _ _ => ?_
  refine Alike.bind (alike_settle (bundleOf wish env.depths)) fun bundle => ?_
  refine twins_get_bind fun w journal records stores => ?_
  have deleting := Store.map_get?_of_veil (f := Resource.deleting) (fun _ => rfl) stores wish.name
  dsimp only
  rw [← deleting]
  split
  · exact alike_pure _
  · refine (twins_settle (Credentials.fields_of_veil same)).bind fun fields fields' alike => ?_
    have documents : Credentials.veilDocument (.object fields) =
        Credentials.veilDocument (.object fields') := congrArg Json.object alike
    refine (Register.alike_put wish.name bundle documents).bind fun _ => ?_
    split
    · exact (Pass.alike_run h wish.name).bind fun report => alike_answer wish.name report
    · exact alike_pure _

theorem alike_reconcile (name : String) : (reconcile env name).Alike (reconcile env' name) := by
  unfold reconcile
  refine twins_get_bind fun w journal records _ => ?_
  exact Twins.ite Iff.rfl (fun _ => alike_pure _) fun _ => alike_passFor h name _

theorem alike_delete (name : String) : (delete env name).Alike (delete env' name) := by
  unfold delete
  refine (Register.alike_markDeleting name).bind fun known => ?_
  split
  · exact alike_passFor h name _
  · exact alike_pure _

theorem alike_call {c c' : Call} (twins : c.Twin c') : (call env c).Alike (call env' c') := by
  cases twins with
  | apply twins => exact alike_apply h twins.veil
  | same =>
    cases c with
    | apply wish => exact alike_apply h rfl
    | reconcile name => exact alike_reconcile h name
    | status name => exact alike_status name
    | delete name => exact alike_delete h name
    | list => exact alike_list
    | misfit why => exact twins_raise _

theorem alike_guarded (method : Option String) {c c' : Call} (twins : c.Twin c') :
    (guarded env method c).Alike (guarded env' method c') := by
  unfold guarded
  refine (alike_call h twins).attempt.bind fun outcome => ?_
  refine twins_get_bind fun w journal records _ => ?_
  dsimp only
  refine Alike.bind (alike_modify fun _ => rfl) fun _ => ?_
  exact (alike_logAll _).bind fun _ => alike_settle _

end Service

/-! ## 3. Requests -/

/-- Requests that differ in secrets alone. -/
inductive Request.Twin : Request → Request → Prop
  | same (r : Request) : Twin r r
  | put {name : String} {credentials credentials' : Json} {bundle : Bundle}
      (twins : Credentials.Twin credentials credentials') :
      Twin (.put name credentials bundle) (.put name credentials' bundle)
  | call {c c' : Call} (twins : c.Twin c') : Twin (.call c) (.call c')
  | guarded {method : Option String} {c c' : Call} (twins : c.Twin c') :
      Twin (.guarded method c) (.guarded method c')

/-- The credentials that a request brings along. -/
def Request.credentials? : Request → Option Json
  | .put _ credentials _ => some credentials
  | .call (.apply wish) => some wish.credentials
  | .guarded _ (.apply wish) => some wish.credentials
  | _ => none

theorem Request.Twin.shown (depths : Json.Depths) {r r' : Request} (twins : r.Twin r') :
    r.credentials?.map (Credentials.shown depths) =
      r'.credentials?.map (Credentials.shown depths) := by
  have of_call {c c' : Call} (twins : c.Twin c') :
      (Request.call c).credentials?.map (Credentials.shown depths) =
        (Request.call c').credentials?.map (Credentials.shown depths) := by
    cases twins with
    | same => rfl
    | apply twins => exact congrArg some (Credentials.shown_of_veil depths twins.veil)
  cases twins with
  | same => rfl
  | put twins => exact congrArg some (Credentials.shown_of_veil depths twins.veil)
  | call twins => exact of_call twins
  | guarded twins =>
    cases twins with
    | same => rfl
    | apply twins => exact of_call (.apply twins)

namespace Service

theorem alike_say (text : String) : (say text : Act σ Unit).Alike (say text) := alike_log

theorem alike_shutdown : (shutdown : Act σ Unit).Alike shutdown := by
  unfold shutdown
  refine (alike_say _).bind fun _ => ?_
  refine Sweep.alike_stop.bind fun _ => ?_
  refine twins_get_bind fun w journal records _ => ?_
  refine Twins.ite Iff.rfl (fun _ => ?_) fun _ => alike_say _
  exact (alike_say _).bind fun _ => alike_say _

include h

/-- Requests that differ in secrets alone come to answers that do. -/
theorem twins_perform {r r' : Request} (twins : r.Twin r') :
    (perform env r).Twins (perform env' r') fun a a' => a.veil = a'.veil := by
  have said {α : Type} {act act' : Act σ α} (alike : act.Alike act') (reply : α → Reply) :
      (act >>= fun a => pure (reply a)).Twins (act' >>= fun a => pure (reply a))
        fun a a' => a.veil = a'.veil :=
    alike.bind fun _ => twins_pure rfl
  have polling {act act' : Act σ Unit} (alike : act.Alike act') :
      (act >>= fun _ => Sweep.isPolling >>= fun b => pure (.polling b) : Act σ Reply).Twins
        (act' >>= fun _ => Sweep.isPolling >>= fun b => pure (.polling b))
        fun a a' => a.veil = a'.veil :=
    alike.bind fun _ => said Sweep.alike_isPolling _
  cases twins with
  | put twins => exact said (Register.alike_put _ _ twins.veil) fun _ => .bundle _
  | call twins => exact said (alike_call h twins) .text
  | guarded twins => exact said (alike_guarded h _ twins) .text
  | same =>
    cases r with
    | put name credentials bundle =>
      exact said (Register.alike_put name bundle rfl) fun _ => .bundle bundle
    | get name =>
      refine twins_get_bind fun w journal records stores => twins_pure ?_
      exact congrArg Reply.resource (Store.get?_of_veil stores name)
    | markDeleting name => exact said (Register.alike_markDeleting name) .known
    | remove name => exact said (Register.alike_remove name) fun _ => .done
    | shareLock name other => exact said (Register.alike_shareLock name other) .sameLock
    | reconcile name => exact said (Pass.alike_run h name) .report
    | reconcileAll => exact said (Sweep.alike_run h) .reports
    | call c => exact said (alike_call h (.same c)) .text
    | guarded method c => exact said (alike_guarded h method (.same c)) .text
    | errorCounts => exact twins_get_bind fun w journal records _ => twins_pure rfl
    | resetErrorCounts =>
      refine said (alike_modify ?_) fun _ => .done
      exact fun _ => rfl
    | startPolling interval => exact polling (Sweep.alike_start h interval)
    | tick count => exact polling (Sweep.alike_tick h count)
    | stopPolling => exact polling Sweep.alike_stop
    | startup interval =>
      refine said ?_ fun _ => .started interval
      refine (alike_say _).bind fun _ => ?_
      exact (Sweep.alike_start h _).bind fun _ => alike_say _
    | shutdown => exact polling alike_shutdown

end Service

/-! ## 4. Histories -/

namespace Service

/-- What comes of some requests, one after the other. -/
def answers (env : Surroundings σ) : World σ → List Request → List (Except Problem Reply)
  | _, [] => []
  | w, r :: rest => ((perform env r).runOn w).1 :: answers env ((perform env r).runOn w).2 rest

/-- Two histories look alike from outside. -/
structure LookAlike (env env' : Surroundings σ) (w w' : World σ)
    (requests requests' : List Request) : Prop where
  /-- Every answer and every problem is the same, but for the secrets of a
  resource that is itself the answer. -/
  answers : (answers env w requests).map (Except.map Reply.veil) =
    (answers env' w' requests').map (Except.map Reply.veil)
  /-- Every log record is the same. -/
  logs : (serve env w requests).journal.logs = (serve env' w' requests').journal.logs
  /-- Every event is the same, but for the secret that a login offers. -/
  events : (serve env w requests).journal.events.map Event.veil =
    (serve env' w' requests').journal.events.map Event.veil
  /-- What is shown of each resource is the same. -/
  documents : ∀ name, ((serve env w requests).store.get? name).map Resource.toDocument =
    ((serve env' w' requests').store.get? name).map Resource.toDocument
  /-- What is shown of the credentials of each resource is the same. -/
  displays : ∀ name,
    ((serve env w requests).store.get? name).map
        (fun r => Credentials.shown env.depths r.credentials) =
      ((serve env' w' requests').store.get? name).map
        fun r => Credentials.shown env'.depths r.credentials
  /-- What is shown of the credentials that are brought along is the same. -/
  brought : requests.map (fun r => r.credentials?.map (Credentials.shown env.depths)) =
    requests'.map fun r => r.credentials?.map (Credentials.shown env'.depths)

include h in
/-- Request by request, the answers and the states stay equal under the veil. -/
theorem twins_serve {requests requests' : List Request}
    (twins : List.Forall₂ Request.Twin requests requests') :
    ∀ w w', w.veil = w'.veil →
      (answers env w requests).map (Except.map Reply.veil) =
          (answers env' w' requests').map (Except.map Reply.veil) ∧
        (serve env w requests).veil = (serve env' w' requests').veil := by
  induction twins with
  | nil => exact fun w w' same => ⟨rfl, same⟩
  | cons one _ ih =>
    intro w w' same
    obtain ⟨outcomes, after⟩ := twins_perform h one w w' same
    obtain ⟨others, states⟩ := ih _ _ after
    refine ⟨?_, states⟩
    simp only [answers, List.map_cons, outcomes_iff_map.mp outcomes, others]

end Service

/-! ## 5. Rehearsals -/

namespace Rehearsal

variable {ι : Type}

/-- What is prepared for a host does not hang on secrets. -/
theorem discreet_host : (host : Host (Rehearsal ι)).Discreet where
  importKey _ _ _ _ := rfl
  connect _ _ _ _ := rfl

theorem alike_interlude {act act' : ι → Act (Rehearsal ι) Reply}
    (twins : ∀ what, (act what).Twins (act' what) fun a a' => a.veil = a'.veil) (p : Pause) :
    (interlude act p).Alike (interlude act' p) := by
  cases p with
  | running =>
    refine twins_get_bind fun w journal records _ => ?_
    dsimp only
    split
    · exact alike_pure ()
    next what _ =>
      refine Alike.bind (alike_modify fun _ => rfl) fun _ => ?_
      refine (twins what).bind fun answer answer' same => alike_note ?_
      simp [Entry.veil, Event.veil, same]
  | _ => exact alike_pure ()

/-- Around what is rehearsed, with interludes that differ in secrets alone. -/
theorem twins_around {act act' : Surroundings (Rehearsal ι) → ι → Act (Rehearsal ι) Reply}
    (twins : ∀ {env env'}, env.Twins env' → ∀ what,
      (act env what).Twins (act' env' what) fun a a' => a.veil = a'.veil)
    (env : Surroundings (Rehearsal ι)) :
    ∀ depth, (around act env depth).Twins (around act' env depth)
  | 0 => ⟨discreet_host, rfl, rfl, rfl, rfl, rfl, fun _ => alike_pure ()⟩
  | depth + 1 =>
    ⟨discreet_host, rfl, rfl, rfl, rfl, rfl,
      alike_interlude (twins (twins_around twins env depth))⟩

end Rehearsal

/-! ## 6. Discretion -/

namespace Service

include h in
/-- **Secrets are not told.** Two histories of requests that differ in
secrets alone, from states that differ in secrets alone, look alike from
outside: the host, the logs and the clients learn nothing of a secret but
where it is offered to log in. -/
theorem look_alike_of_twins {requests requests' : List Request}
    (twins : List.Forall₂ Request.Twin requests requests') {w w' : World σ}
    (same : w.veil = w'.veil) : LookAlike env env' w w' requests requests' := by
  obtain ⟨told, states⟩ := twins_serve h twins w w' same
  have journals : (serve env w requests).journal.map Entry.veil =
      (serve env' w' requests').journal.map Entry.veil := congrArg World.journal states
  have stores : (serve env w requests).store.veil = (serve env' w' requests').store.veil :=
    congrArg World.store states
  constructor
  case answers => exact told
  case logs => rw [← Journal.logs_veil, journals, Journal.logs_veil]
  case events => rw [← Journal.events_veil, journals, Journal.events_veil]
  case documents => exact Store.map_get?_of_veil (fun _ => rfl) stores
  case displays =>
    rw [h.depths]
    refine Store.map_get?_of_veil (fun r => ?_) stores
    exact Credentials.shown_of_veil env.depths (Credentials.veilDocument_veilDocument _)
  case brought =>
    rw [h.depths]
    clear told states journals stores
    induction twins with
    | nil => rfl
    | cons one _ ih => rw [List.map_cons, List.map_cons, one.shown env.depths, ih]

/-- A password and a key are used, shown around and given up. -/
def visit (password key : String) : List Request :=
  let credentials (secret : String × Json) : Json :=
    .object [("hostIP", .text "10.0.0.1"), ("username", .text "root"), secret]
  [.call (.apply
      { name := "web"
        credentials := credentials ("password", .text password)
        statusCheck := .text "systemctl is-active web" }),
    .guarded none (.apply
      { name := "db"
        credentials := credentials ("privateKey", .text key)
        cleanup := .text "dropdb main" }),
    .call (.status "web"),
    .reconcileAll,
    .get "db",
    .call (.delete "db"),
    .call .list]

/-- A host that refuses once, and on which the list of resources is asked for
while the status check runs. -/
def stage : Rehearsal Request where
  connects := [.error (.fault ⟨.permissionDenied, "denied"⟩), .ok ()]
  scripts := [("systemctl is-active web", [{ interlude := some (.call .list) }])]

/-- Other passwords and other keys, and nobody sees a difference. -/
theorem look_alike_of_visits :
    List.Forall₂ Request.Twin (visit "alpha" "QUJD") (visit "beta" "WFla") ∧
      LookAlike (Rehearsal.around perform Rehearsal.host.counted 1)
        (Rehearsal.around perform Rehearsal.host.counted 1) (start stage) (start stage)
        (visit "alpha" "QUJD") (visit "beta" "WFla") := by
  have twins : List.Forall₂ Request.Twin (visit "alpha" "QUJD") (visit "beta" "WFla") := by
    have credentials {key : String} {j j' : Json} (twins : Credentials.FieldTwin key j j') :
        Credentials.Twin
          (.object [("hostIP", .text "10.0.0.1"), ("username", .text "root"), (key, j)])
          (.object [("hostIP", .text "10.0.0.1"), ("username", .text "root"), (key, j')]) :=
      .mapping (.cons ⟨rfl, .inl rfl⟩ (.cons ⟨rfl, .inl rfl⟩ (.cons ⟨rfl, twins⟩ .nil)))
    have passwords : Credentials.FieldTwin "password" (.text "alpha") (.text "beta") :=
      .inr (.inl ⟨rfl, rfl, rfl⟩)
    have keys : Credentials.FieldTwin "privateKey" (.text "QUJD") (.text "WFla") :=
      .inr (.inr ⟨rfl, rfl, rfl⟩)
    refine .cons (.call (.apply (credentials passwords))) ?_
    refine .cons (.guarded (.apply (credentials keys))) ?_
    exact List.forall₂_same.mpr fun r _ => .same r
  have around := Rehearsal.twins_around (fun h r => twins_perform h (.same r))
    Rehearsal.host.counted 1
  exact ⟨twins, look_alike_of_twins around twins rfl⟩

end Service

end Upkeep
