/-
Upkeep.Proofs.UnknownNames — what it means that a name is unknown.

A problem that says that a name is not known is raised by a pass in one place
only, when the name leads to no resource once the lock is held
(`Pass.raises_body`). Whatever else a pass raises is no such problem, or comes
from the surroundings.

Main statement: `Service.unknown_names` — the answers that a resource is
unknown or already deleted, and a pass that a sweep drops without a complaint,
mean that the name leads nowhere, or repeat what the surroundings reported.

A host that reports an unknown name is taken at its word, and a resource that
is still there is said to be deleted: `Service.delete_denies_stored`.
-/
import Upkeep.Proofs.Decoding
import Upkeep.Proofs.Foreign
import Upkeep.Proofs.Gathering

namespace Upkeep

open Upkeep.Act

variable {σ : Type}

/-! ## 1. Credentials -/

/-- The fault is not that a name is unknown. -/
def Fault.Familiar (f : Fault) : Prop := f.kind ≠ .unknownName

/-- The problem is not that a name is unknown. -/
def Problem.Familiar (p : Problem) : Prop := p.isUnknownName = false

namespace Json

mutual

/-- What keeps a document from being shown is no unknown name. -/
theorem familiar_obstacle? : ∀ (room : Nat) (j : Json) (f : Fault),
    j.obstacle? room = some f → f.Familiar
  | 0, j, f, h => by
    cases j <;> (obtain rfl := Option.some.inj h; exact nofun)
  | room + 1, .number (.whole n), f, h => by
    rw [obstacle?_whole] at h
    split at h
    · obtain rfl := Option.some.inj h
      exact nofun
    · cases h
  | room + 1, .list items, f, h => familiar_obstacleOfItems? room items f h
  | room + 1, .object fields, f, h => familiar_obstacleOfFields? room fields f h
  | room + 1, .null, f, h => by cases h
  | room + 1, .bool b, f, h => by cases h
  | room + 1, .number (.double x), f, h => by cases h
  | room + 1, .text s, f, h => by cases h

theorem familiar_obstacleOfItems? : ∀ (room : Nat) (items : List Json) (f : Fault),
    obstacleOfItems? room items = some f → f.Familiar
  | room, [], f, h => by cases h
  | room, item :: rest, f, h => by
    rw [obstacleOfItems?_cons] at h
    rcases Option.or_eq_some_iff.mp h with first | ⟨-, later⟩
    · exact familiar_obstacle? room item f first
    · exact familiar_obstacleOfItems? room rest f later

theorem familiar_obstacleOfFields? : ∀ (room : Nat) (fields : List (String × Json))
    (f : Fault), obstacleOfFields? room fields = some f → f.Familiar
  | room, [], f, h => by cases h
  | room, (key, value) :: rest, f, h => by
    rw [obstacleOfFields?_cons] at h
    rcases Option.or_eq_some_iff.mp h with first | ⟨-, later⟩
    · exact familiar_obstacle? room value f first
    · exact familiar_obstacleOfFields? room rest f later

end

theorem fails_toText (j : Json) (depths : Depths) : Fails (j.toText depths) Fault.Familiar := by
  unfold toText
  split
  · rename_i f found
    exact fails_error (familiar_obstacle? _ j f found)
  · exact fails_ok

theorem fails_items (j : Json) : Fails j.items Fault.Familiar := by
  unfold items
  split
  · exact fails_ok
  · exact fails_error nofun

theorem fails_asKey (j : Json) : Fails j.asKey Fault.Familiar := by
  unfold asKey
  split
  · exact fails_error nofun
  · exact fails_ok

theorem fails_pairOf (index : Nat) (item : Json) :
    Fails (pairOf index item) Fault.Familiar := by
  unfold pairOf
  split
  · exact fails_error nofun
  · exact (fails_asKey _).bind fun _ => fails_ok
  · exact fails_error nofun

theorem fails_fieldsOfPairs : ∀ (items : List Json) (index : Nat) (fields : List (String × Json)),
    Fails (fieldsOfPairs index fields items) Fault.Familiar
  | [], _, _ => fails_ok
  | item :: rest, index, _ =>
    (fails_pairOf index item).bind fun _ => fails_fieldsOfPairs rest _ _

theorem fails_fields (j : Json) : Fails j.fields Fault.Familiar := by
  unfold fields
  split
  · exact fails_ok
  · exact (fails_items j).bind fun items => fails_fieldsOfPairs items 0 []

end Json

namespace Problem

theorem familiar_fault {f : Fault} (h : f.Familiar) : (fault f).Familiar :=
  beq_eq_false_iff_ne.mpr h

theorem familiar_refusing (depths : Json.Depths) (written : Json) (what : Misconfiguration)
    (cause : Option Fault) : (refusing depths written what cause).Familiar := by
  unfold refusing
  split
  · rename_i f found
    exact familiar_fault (Json.familiar_obstacle? _ written f found)
  · rfl

end Problem

namespace Credentials

open Problem

variable (depths : Json.Depths)

theorem fails_readDocument (s : List Char) (unmarked : Bool) :
    Fails (readDocument s unmarked depths) Fault.Familiar := by
  unfold readDocument
  split
  · exact fails_ok
  · split
    · exact fails_error nofun
    · exact fails_error nofun
    · exact fails_error nofun

theorem fails_fieldsOfDocument {document : Except Fault Json}
    (h : Fails document Fault.Familiar) :
    Fails (fieldsOfDocument document) Familiar := by
  unfold fieldsOfDocument
  split
  · exact fails_ok
  · exact fails_error rfl
  · rename_i f
    split
    · exact fails_error rfl
    · exact fails_error (familiar_fault (h f rfl))

theorem fails_fieldsOf (payload : Payload) : Fails (fieldsOf payload depths) Familiar := by
  unfold fieldsOf
  split
  · refine fails_fieldsOfDocument ?_
    split
    · exact fails_readDocument depths _ _
    · exact fails_error nofun
  · exact fails_fieldsOfDocument (fails_readDocument depths _ _)
  · exact ((Json.fails_fields _).mono fun _ => familiar_fault).mapError

theorem fails_textField (fields : List (String × Json)) (key : String) :
    Fails (textField fields key depths) Familiar := by
  unfold textField
  split
  · exact fails_ok
  · rename_i j _
    refine Fails.mapError fun f failed => familiar_fault ?_
    cases shown : j.toText depths with
    | error why =>
      rw [shown] at failed
      obtain rfl := Except.error.inj failed
      exact Json.fails_toText j depths why shown
    | ok s =>
      rw [shown] at failed
      cases failed

theorem fails_decodeKey (encoded : Json) : Fails (decodeKey encoded) Familiar := by
  unfold decodeKey
  split
  · dsimp only
    split
    · exact fails_ok
    · exact fails_error rfl
  · exact fails_error rfl

theorem fails_keyOf (fields : List (String × Json)) : Fails (keyOf fields) Familiar := by
  unfold keyOf
  split
  · exact fails_ok
  · rename_i encoded _
    cases decoded : decodeKey encoded with
    | error p => exact fails_error (fails_decodeKey encoded p decoded)
    | ok key => exact fails_ok

theorem fails_hostOf (written : Json) : Fails (hostOf written depths) Familiar := by
  unfold hostOf
  split
  · exact Fails.mapError fun _ _ => rfl
  · split
    · exact fails_error rfl
    · split
      · exact fails_error rfl
      · split
        · exact fails_error (familiar_refusing _ _ _ _)
        · exact fails_error rfl

theorem fails_wholeNumber (written : Json) :
    Fails (Port.wholeNumber written) Fault.Familiar := by
  unfold Port.wholeNumber
  split
  · exact fails_ok
  · exact fails_ok
  · split
    · exact fails_ok
    · exact fails_error nofun
    · exact fails_error nofun
  · split
    · exact fails_ok
    · exact fails_error nofun
  · exact fails_error nofun

theorem fails_port (written : Json) : Fails (Port.read written depths) Familiar := by
  unfold Port.read
  split
  · exact fails_ok
  · split
    · split
      · exact fails_ok
      · exact fails_error (familiar_refusing _ _ _ _)
    · rename_i f failed
      split
      · exact fails_error (familiar_refusing _ _ _ _)
      · exact fails_error (familiar_fault (fails_wholeNumber written f failed))

theorem fails_make (host username port password : Json) (key : Option (List UInt8))
    (knownHosts : Json) :
    Fails (make host username port password key knownHosts depths) Familiar := by
  cases given : username.isGiven with
  | false =>
    unfold make
    rw [given]
    exact fails_error rfl
  | true =>
    rw [make_eq _ _ _ _ _ _ given]
    refine (fails_hostOf depths host).bind fun h => (fails_port depths port).bind fun n => ?_
    unfold checkSecrets
    split
    · exact fails_ok
    · exact fails_error rfl

/-- That a name is unknown is never what is wrong with credentials. -/
theorem fails_ofPayload (payload : Payload) : Fails (ofPayload payload depths).2 Familiar := by
  rw [ofPayload_eq]
  refine (fails_fieldsOf depths payload).bind fun fields => ?_
  rw [ofFields_eq]
  refine (fails_keyOf fields).bind fun key => (fails_textField depths fields _).bind fun host => ?_
  exact (fails_textField depths fields _).bind fun username => fails_make depths _ _ _ _ _ _

end Credentials

open Surroundings

variable {env : Surroundings σ}

theorem Surroundings.explains_of_familiar {p : Problem} (h : p.Familiar) : env.Explains p :=
  fun unknown => by
    rw [h] at unknown
    cases unknown

/-! ## 2. Passes -/

namespace Pass

theorem raises_finish (k : Nat) (action : Action) (deleted : Bool) :
    (finish k action deleted : Act σ Report).Raises env.Explains :=
  fun _ => fails_ok

theorem raises_fail (k : Nat) (action : Action) (why : Failure) :
    (fail k action why : Act σ Report).Raises env.Explains :=
  fun _ => fails_ok

theorem raises_conclude (k : Nat) (action : Action) (outcome : Except Failure Unit) :
    (conclude k action outcome : Act σ Report).Raises env.Explains := by
  cases outcome with
  | ok _ => exact raises_finish k action false
  | error why => exact raises_fail k action why

theorem raises_phase {α : Type} (k : Nat) {act : Observation → Act σ (Lifecycle.Verdict α)}
    (h : ∀ o, (act o).Raises env.Explains) : (phase k act).Raises env.Explains := by
  unfold phase
  refine raises_after (fun _ => ⟨_, rfl⟩) fun r => ?_
  refine (h r.observation).attempt_bind fun outcome explained => ?_
  rcases outcome with p | ⟨seen, verdict⟩
  · cases p with
    | failure why => exact raises_pure _
    | told why => exact raises_raise (explained _ rfl)
    | fault f => exact raises_raise (explained _ rfl)
  · exact fun _ => fails_ok

theorem raises_respond (k : Nat) (survey : Survey) :
    (respond env k (workplace env (Session.over env) k) survey).Raises env.Explains := by
  unfold respond
  refine raises_after (fun _ => ⟨_, rfl⟩) fun r => ?_
  dsimp only
  split
  · refine Raises.after_note (Raises.bind (raises_phase k fun o => ?_) fun _ => ?_)
    · exact Lifecycle.raises_create rfl r.bundle o
    · exact raises_conclude k _ _
  · refine Raises.after_note (Raises.bind (raises_phase k fun o => ?_) fun _ => ?_)
    · exact Lifecycle.raises_change rfl .update r.bundle o
    · exact raises_conclude k _ _
  · exact raises_after (fun _ => ⟨_, rfl⟩) fun _ => raises_conclude k _ _

theorem raises_sync (k : Nat) : (sync env k (Session.over env)).Raises env.Explains := by
  unfold sync
  refine raises_after (fun _ => ⟨_, rfl⟩) fun r => ?_
  refine Raises.bind (raises_phase k fun o => ?_) fun seen => ?_
  · exact Lifecycle.raises_observe rfl r.bundle o
  · split
    · exact raises_fail k _ _
    · split
      · exact Raises.after_note (raises_finish k _ _)
      · exact raises_respond k _

theorem raises_remove (name : String) :
    (Register.remove name : Act σ Unit).Raises env.Explains := by
  unfold Register.remove
  refine raises_after (fun _ => ⟨_, rfl⟩) fun w => raises_after (fun _ => ⟨_, rfl⟩) fun _ => ?_
  split
  · exact fun _ => fails_ok
  · exact raises_pure _

theorem raises_delete (k : Nat) : (delete env k (Session.over env)).Raises env.Explains := by
  unfold delete
  refine raises_after (fun _ => ⟨_, rfl⟩) fun _ => raises_after (fun _ => ⟨_, rfl⟩) fun r => ?_
  refine Raises.bind (raises_phase k fun o => ?_) fun done => ?_
  · exact Lifecycle.raises_delete rfl r.bundle o
  · split
    · exact raises_fail k _ _
    · exact (raises_remove r.name).bind fun _ => raises_finish k _ _

theorem raises_attend (k : Nat) : (attend env k (Session.over env)).Raises env.Explains := by
  unfold attend
  refine raises_after (fun _ => ⟨_, rfl⟩) fun r => ?_
  split
  · exact raises_delete k
  · exact raises_sync k

theorem yields_openSession (k : Nat) : (openSession env k).Ends (Connection.Yields env) := by
  unfold openSession
  refine Ends.after (fun _ => ⟨_, rfl⟩) fun r => Ends.after (fun _ => ⟨_, rfl⟩) fun _ => ?_
  have familiar := Credentials.fails_ofPayload env.depths (.value r.credentials)
  exact (raises_settle familiar).bind_ends (fun c => Connection.yields_connect c _)
    fun _ => explains_of_familiar

theorem raises_refuse (k : Nat) (why : Failure) :
    (refuse k why : Act σ Report).Raises env.Explains := by
  unfold refuse
  refine raises_after (fun _ => ⟨_, rfl⟩) fun r => ?_
  split
  · exact raises_after (fun _ => ⟨_, rfl⟩) fun _ => raises_fail k _ _
  · exact raises_fail k _ _

theorem raises_work (name : String) (k : Nat) : (work env name k).Raises env.Explains := by
  unfold work
  refine raises_after (fun _ => ⟨_, rfl⟩) fun r => ?_
  split
  · exact raises_after (fun _ => ⟨_, rfl⟩) fun _ => (raises_remove name).bind fun _ =>
      raises_finish k _ _
  · -- the rest of a pass is about the host if the session is the one over its connection
    refine (yields_openSession k).attempt_bind fun outcome opened => ?_
    rcases outcome with p | session
    · cases p with
      | failure why => exact raises_refuse k why
      | told why => exact raises_raise opened
      | fault f => exact raises_raise opened
    · obtain rfl : session = Session.over env := opened
      exact (raises_attend k).ensuring Channel.raises_close

/-- Once the lock is held and the resource is found, an unknown name is what
the surroundings report. -/
theorem raises_body (name : String) (k : Nat) : (body env name k).Raises env.Explains := by
  unfold body
  refine raises_after (fun _ => ⟨_, rfl⟩) fun r => Raises.after_note ?_
  exact raises_after (fun _ => ⟨_, rfl⟩) fun _ => raises_work name k

/-- What a pass does once it holds the lock. -/
def locked (env : Surroundings σ) (name : String) : Act σ Report := do
  match (← get).store.find? name with
  | none => raise (.fault (.unknownName name))
  | some k => body env name k

theorem run_eq (env : Surroundings σ) (name : String) :
    run env name = Register.underLock name (locked env name) := rfl

theorem runOn_locked_of_unknown {w : World σ} {name : String}
    (unknown : w.store.find? name = none) :
    (locked env name).runOn w = (.error (.fault (.unknownName name)), w) := by
  unfold locked
  rw [runOn_get_bind, unknown]
  rfl

/-- With the lock in hand, a pass raises an unknown name only if the name leads
nowhere, or if the surroundings report one. -/
theorem unknown_of_locked {w : World σ} {name : String} {p : Problem}
    (raised : ((locked env name).runOn w).1 = .error p) (unknown : p.isUnknownName = true) :
    w.store.find? name = none ∨ env.Reports p := by
  cases stored : w.store.find? name with
  | none => exact Or.inl rfl
  | some k =>
    unfold locked at raised
    rw [runOn_get_bind, stored] at raised
    exact Or.inr (raises_body name k w p raised unknown)

theorem unknown_of_run {w : World σ} {name : String} {p : Problem}
    (raised : ((run env name).runOn w).1 = .error p) (unknown : p.isUnknownName = true) :
    w.store.find? name = none ∨ env.Reports p := by
  have same := Store.agrees_lock w.store name
  -- taking the lock leaves the names alone, and a lock that is held stops the pass otherwise
  rw [run_eq, Register.runOn_underLock] at raised
  split at raised
  · obtain rfl := Except.error.inj raised
    cases unknown
  · rw [← same.find?]
    exact unknown_of_locked raised unknown

/-- A pass over a name that leads nowhere leaves it so. -/
theorem find?_of_run {w : World σ} {name : String} (unknown : w.store.find? name = none) :
    ((run env name).runOn w).2.store.find? name = none := by
  have same := Store.agrees_lock w.store name
  have still : (w.store.lock name).2.find? name = none := by rw [same.find?, unknown]
  rw [run_eq, Register.runOn_underLock]
  split
  · exact still
  · dsimp only
    rw [runOn_locked_of_unknown still]
    exact still

end Pass

/-! ## 3. Answers -/

namespace Service

/-- The answer that a resource was removed in the meantime. -/
def gone (name : String) : String := s!"Script resource '{name}' already deleted"

theorem head?_append {s rest : String} {c : Char} (h : s.toList.head? = some c) :
    (s ++ rest).toList.head? = some c := by
  rw [String.toList_append, List.head?_append, h]
  rfl

/-- A report for a client begins with a ruled line. -/
theorem head?_report (report : Report) (r : Option Resource) :
    (report.text r).toList.head? = some '═' := by
  have ruled : ∃ rest, report.text r = "═══ " ++ rest := by
    unfold Report.text
    simp only [List.cons_append, String.intercalate_cons_cons, String.append_assoc]
    exact ⟨_, rfl⟩
  obtain ⟨rest, h⟩ := ruled
  rw [h]
  exact head?_append (by decide)

theorem report_ne_unknown (report : Report) (r : Option Resource) (name : String) :
    report.text r ≠ unknown name := by
  have denies : (unknown name).toList.head? = some 'E' := by
    unfold unknown
    exact head?_append (head?_append (by decide))
  intro same
  rw [← same, head?_report] at denies
  exact absurd denies (by decide)

theorem report_ne_gone (report : Report) (r : Option Resource) (name : String) :
    report.text r ≠ gone name := by
  have denies : (gone name).toList.head? = some 'S' := by
    unfold gone
    exact head?_append (head?_append (by decide))
  intro same
  rw [← same, head?_report] at denies
  exact absurd denies (by decide)

/-- The pass over a name that begins in a state raises an unknown name that
the surroundings report. -/
def Misled (env : Surroundings σ) (name : String) (w : World σ) : Prop :=
  ∃ p, p.isUnknownName = true ∧ env.Reports p ∧ ((Pass.run env name).runOn w).1 = .error p

theorem runOn_passFor (env : Surroundings σ) (name otherwise : String) (w : World σ) :
    (passFor env name otherwise).runOn w =
      let w' := ((Pass.run env name).runOn w).2
      match ((Pass.run env name).runOn w).1 with
      | .ok report => (.ok (report.text (w'.store.get? name)), w')
      | .error p => if p.isUnknownName then (.ok otherwise, w') else (.error p, w') := by
  show (match ((Pass.run env name).runOn w).1 with
    | .ok report => answer name report
    | .error p => if p.isUnknownName then pure otherwise else raise p : Act σ String).runOn
    ((Pass.run env name).runOn w).2 = _
  cases ((Pass.run env name).runOn w).1 with
  | ok report => rfl
  | error p =>
    dsimp only
    cases p.isUnknownName with
    | true => rfl
    | false => rfl

/-- An answer that is no report is given only if the name leads nowhere after
the call, or if the pass was misled. -/
theorem unknown_of_passFor {name otherwise text : String} {w : World σ}
    (apart : ∀ (report : Report) r, report.text r ≠ text)
    (answered : ((passFor env name otherwise).runOn w).1 = .ok text) :
    ((passFor env name otherwise).runOn w).2.store.find? name = none ∨ Misled env name w := by
  rw [runOn_passFor] at answered ⊢
  dsimp only at answered ⊢
  cases raised : ((Pass.run env name).runOn w).1 with
  | ok report =>
    rw [raised] at answered
    exact absurd (Except.ok.inj answered) (apart report _)
  | error p =>
    rw [raised] at answered
    dsimp only at answered ⊢
    split at answered
    · rename_i unknown
      rw [if_pos unknown]
      rcases Pass.unknown_of_run raised unknown with leadsNowhere | reported
      · exact Or.inl (Pass.find?_of_run leadsNowhere)
      · exact Or.inr ⟨p, unknown, reported, raised⟩
    · cases answered

theorem unknown_of_reconcile {name : String} {w : World σ}
    (answered : ((reconcile env name).runOn w).1 = .ok (unknown name)) :
    ((reconcile env name).runOn w).2.store.find? name = none ∨ Misled env name w := by
  unfold reconcile at answered ⊢
  rw [runOn_get_bind] at answered ⊢
  cases stored : w.store.find? name with
  | none => exact Or.inl stored
  | some k =>
    rw [stored] at answered
    exact unknown_of_passFor (fun report r => report_ne_unknown report r name) answered

theorem runOn_markDeleting_of_unknown {name : String} {w : World σ}
    (unknown : w.store.find? name = none) :
    (Register.markDeleting name : Act σ Bool).runOn w = (.ok false, w) := by
  unfold Register.markDeleting
  rw [runOn_get_bind, unknown]
  rfl

theorem gives_markDeleting_of_known {name : String} {w : World σ} {k : Nat}
    (stored : w.store.find? name = some k) :
    (Register.markDeleting name : Act σ Bool).Gives w fun _ o _ => o = .ok true := by
  unfold Register.markDeleting
  refine gives_get_bind ?_
  rw [stored]
  refine gives_note_bind (gives_record_bind ?_)
  split
  · exact gives_edit_bind (gives_note_bind (gives_pure rfl))
  · exact gives_pure rfl

theorem unknown_of_delete {name text : String} {w : World σ}
    (denies : text = unknown name ∨ text = gone name)
    (answered : ((delete env name).runOn w).1 = .ok text) :
    ((delete env name).runOn w).2.store.find? name = none ∨
      Misled env name ((Register.markDeleting name).runOn w).2 := by
  have apart (report : Report) (r : Option Resource) : report.text r ≠ text := by
    rcases denies with rfl | rfl
    · exact report_ne_unknown report r name
    · exact report_ne_gone report r name
  unfold delete at answered ⊢
  rw [runOn_bind] at answered ⊢
  cases stored : w.store.find? name with
  | none =>
    rw [runOn_markDeleting_of_unknown stored]
    exact Or.inl stored
  | some k =>
    obtain ⟨-, -, marked⟩ := gives_markDeleting_of_known stored
    have known : (Register.markDeleting name : Act σ Bool).runOn w =
        (.ok true, ((Register.markDeleting name : Act σ Bool).runOn w).2) := Prod.ext marked rfl
    rw [known] at answered ⊢
    exact unknown_of_passFor apart answered

/-! ## 4. Sweeps -/

/-- Every pass of a sweep is reported, complained about, or dropped, and it is
dropped only if the name led nowhere when it began, or if it was misled. -/
theorem unknown_of_sweep {w : World σ} {name : String} {w₁ : World σ}
    (visited : (name, w₁) ∈ Sweep.visits env w w.store.names) :
    (∃ report reports, ((Sweep.run env).runOn w).1 = .ok reports ∧ report ∈ reports ∧
        ((Pass.run env name).runOn w₁).1 = .ok report) ∨
      (∃ p, ((Pass.run env name).runOn w₁).1 = .error p ∧
        .log ⟨.error, Log.Source.pass, s!"[{name}] Unexpected reconcile error: {p.text}"⟩ ∈
          ((Sweep.run env).runOn w).2.journal) ∨
      w₁.store.find? name = none ∨ Misled env name w₁ := by
  rw [Sweep.runOn_run]
  dsimp only
  have member := List.mem_map_of_mem (f := Sweep.outcomeOf env) visited
  cases raised : ((Pass.run env name).runOn w₁).1 with
  | ok report =>
    have outcome : Sweep.outcomeOf env (name, w₁) = (name, .ok report) := Prod.ext rfl raised
    rw [outcome] at member
    exact Or.inl ⟨report, _, rfl, List.mem_filterMap.mpr ⟨_, member, rfl⟩, rfl⟩
  | error p =>
    have outcome : Sweep.outcomeOf env (name, w₁) = (name, .error p) := Prod.ext rfl raised
    rw [outcome] at member
    cases unknown : p.isUnknownName with
    | false =>
      refine Or.inr (Or.inl ⟨p, rfl, ?_⟩)
      have complaint : Sweep.complaint? (name, .error p) =
          some ⟨.error, Log.Source.pass, s!"[{name}] Unexpected reconcile error: {p.text}"⟩ := by
        unfold Sweep.complaint?
        dsimp only
        rw [unknown]
        rfl
      refine List.mem_append_right _ (List.mem_map_of_mem ?_)
      exact List.mem_append_left _ (List.mem_filterMap.mpr ⟨_, member, complaint⟩)
    | true =>
      refine Or.inr (Or.inr ?_)
      rcases Pass.unknown_of_run raised unknown with leadsNowhere | reported
      · exact Or.inl leadsNowhere
      · exact Or.inr ⟨p, unknown, reported, raised⟩

/-! ## 5. What an unknown name means -/

/-- Whatever the surroundings do: with the lock in hand, a pass over a name that
leads nowhere raises an unknown name, and a pass raises one only over such a
name, or if the surroundings report one. So a client is told that a resource is
unknown or already deleted only if its name leads nowhere after the call, and a
sweep drops a pass without a complaint only if the name led nowhere when the
pass began, unless the pass was misled. -/
theorem unknown_names (env : Surroundings σ) (name : String) (w : World σ) :
    (w.store.find? name = none →
      (Pass.locked env name).runOn w = (.error (.fault (.unknownName name)), w)) ∧
    (∀ p, ((Pass.locked env name).runOn w).1 = .error p → p.isUnknownName = true →
      w.store.find? name = none ∨ env.Reports p) ∧
    (∀ p, ((Pass.run env name).runOn w).1 = .error p → p.isUnknownName = true →
      w.store.find? name = none ∨ env.Reports p) ∧
    (((reconcile env name).runOn w).1 = .ok (unknown name) →
      ((reconcile env name).runOn w).2.store.find? name = none ∨ Misled env name w) ∧
    (∀ text, text = unknown name ∨ text = gone name →
      ((delete env name).runOn w).1 = .ok text →
      ((delete env name).runOn w).2.store.find? name = none ∨
        Misled env name ((Register.markDeleting name).runOn w).2) ∧
    ∀ w₁, (name, w₁) ∈ Sweep.visits env w w.store.names →
      (∃ report reports, ((Sweep.run env).runOn w).1 = .ok reports ∧ report ∈ reports ∧
        ((Pass.run env name).runOn w₁).1 = .ok report) ∨
      (∃ p, ((Pass.run env name).runOn w₁).1 = .error p ∧
        .log ⟨.error, Log.Source.pass, s!"[{name}] Unexpected reconcile error: {p.text}"⟩ ∈
          ((Sweep.run env).runOn w).2.journal) ∨
      w₁.store.find? name = none ∨ Misled env name w₁ :=
  ⟨Pass.runOn_locked_of_unknown, fun _ => Pass.unknown_of_locked, fun _ => Pass.unknown_of_run,
    unknown_of_reconcile, fun _ => unknown_of_delete, fun _ => unknown_of_sweep⟩

theorem eq_ok_of_toOption {α : Type} {o : Except Problem α} {a : α} (h : o.toOption = some a) :
    o = .ok a := by
  cases o with
  | error p => cases h
  | ok b => rw [Option.some.inj h]

/-- The fault that is raised, if one is. -/
def faultOf {α : Type} : Except Problem α → Option Fault
  | .error (.fault f) => some f
  | _ => none

theorem eq_error_of_faultOf {α : Type} {o : Except Problem α} {f : Fault}
    (h : faultOf o = some f) : o = .error (.fault f) := by
  rcases o with (_ | _ | f') | a
  · cases h
  · cases h
  · rw [Option.some.inj h]
  · cases h

/-- A host to which connections end with an unknown name. -/
def forgetful : Host (List Int) :=
  { Host.obliging with connect := fun _ s => (.error (.fault ⟨.unknownName, "'alias'"⟩), s) }

/-- The host reports an unknown name while the resource is deleted, and the
client is told that it is gone; so the pass was misled. -/
theorem unknown_names_misled :
    let env := forgetful.counted
    let w := serve env (start []) [.put "web" Credentials.sample { cleanup := .text "rm -r /srv" }]
    ((delete env "web").runOn w).1 = .ok (gone "web") ∧
      Misled env "web" ((Register.markDeleting "web").runOn w).2 := by
  intro env w
  have answered : ((delete env "web").runOn w).1 = .ok (gone "web") :=
    eq_ok_of_toOption (by decide +kernel)
  have kept : ((delete env "web").runOn w).2.store.find? "web" = some 0 := by decide +kernel
  obtain ⟨-, -, -, -, denied, -⟩ := unknown_names env "web" w
  refine ⟨answered, (denied _ (Or.inr rfl) answered).resolve_left ?_⟩
  rw [kept]
  exact nofun

/-- An unknown name that a host reports is taken for the resource's own: it is
said to be deleted, and it is still there. -/
theorem delete_denies_stored :
    let env := forgetful.counted
    let w := serve env (start []) [.put "web" Credentials.sample { cleanup := .text "rm -r /srv" }]
    w.store.find? "web" = some 0 ∧
      ((Pass.run env "web").runOn w).1 = .error (.fault ⟨.unknownName, "'alias'"⟩) ∧
      ((delete env "web").runOn w).1 = .ok "Script resource 'web' already deleted" ∧
      ((delete env "web").runOn w).2.store.find? "web" = some 0 := by
  intro env w
  exact ⟨by decide +kernel, eq_error_of_faultOf (by decide +kernel),
    eq_ok_of_toOption (by decide +kernel), by decide +kernel⟩

end Service

end Upkeep
