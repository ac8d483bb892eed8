/-
Upkeep.Proofs.Decoding — what comes of credentials when they are decoded.

`Settled outcome Good Upsets` says that an outcome is a `Good` value, a
misconfiguration, or a fault that nothing handles, and the latter exactly in
the cases that `Upsets` names. One lemma for each part of credentials says
how it is settled; `Settled.bind` puts them together in the order in which
the parts are looked at.

Main statement: `ofPayload_settled` — accepted is what the payload writes if it
is `Sound`: a user name, a valid host, a port in range, and either a password
or a key, which alone is offered at the login. What is not accepted is a
misconfiguration except in the cases of `Payload.Upsets`: a document that is
nested too deep, a key that is no text, an infinite port, and values that
cannot be shown, which no document has that was read from a text.

Not every payload is settled without a fault: `ofPayload_upset_by_number`.
-/
import Upkeep.Connection
import Upkeep.Proofs.Act
import Upkeep.Proofs.Hosts
import Upkeep.Proofs.Legible

namespace Upkeep

variable {α β : Type} {depths : Json.Depths}

/-! ## 1. Outcomes -/

/-- The problem is a misconfiguration. -/
def Problem.Refuses (p : Problem) : Prop := ∃ what cause, p = .misconfigured what cause

/-- What comes out is a good value, a misconfiguration, or a fault, and a
fault exactly if it is named. -/
structure Settled (outcome : Except Problem α) (Good : α → Prop) (Upsets : Fault → Prop) :
    Prop where
  good : ∀ a, outcome = .ok a → Good a
  refused : ∀ p, outcome = .error p → p.Refuses ∨ ∃ fault, p = .fault fault ∧ Upsets fault
  upset : ∀ fault, Upsets fault → outcome = .error (.fault fault)

section Rules

variable {outcome : Except Problem α} {Good Good' : α → Prop} {Upsets Upsets' : Fault → Prop}

theorem settled_ok {a : α} (h : Good a) (never : ∀ fault, ¬ Upsets fault) :
    Settled (.ok a) Good Upsets where
  good _ same := Except.ok.inj same ▸ h
  refused _ same := by cases same
  upset fault named := absurd named (never fault)

theorem settled_refusal (what : Misconfiguration) (cause : Option Fault)
    (never : ∀ fault, ¬ Upsets fault) :
    Settled (.error (.misconfigured what cause)) Good Upsets where
  good _ same := by cases same
  refused _ same := Or.inl ⟨what, cause, (Except.error.inj same).symm⟩
  upset fault named := absurd named (never fault)

theorem settled_fault {fault : Fault} (only : ∀ other, Upsets other ↔ other = fault) :
    Settled (.error (.fault fault)) Good Upsets where
  good _ same := by cases same
  refused _ same := Or.inr ⟨fault, (Except.error.inj same).symm, (only fault).mpr rfl⟩
  upset other named := by rw [(only other).mp named]

/-- A misconfiguration that shows a value, which may be in the way. -/
theorem settled_refusing (written : Json) (what : Misconfiguration) (cause : Option Fault) :
    Settled (.error (.refusing depths written what cause)) Good
      fun fault => written.obstacle? depths.message = some fault := by
  unfold Problem.refusing
  cases written.obstacle? depths.message with
  | none => exact settled_refusal what cause (by simp)
  | some fault => exact settled_fault (by simp [eq_comm])

theorem Settled.mono (h : Settled outcome Good Upsets) (good : ∀ a, Good a → Good' a)
    (same : ∀ fault, Upsets fault ↔ Upsets' fault) : Settled outcome Good' Upsets' where
  good a found := good a (h.good a found)
  refused p found := (h.refused p found).imp_right fun ⟨fault, is, named⟩ =>
    ⟨fault, is, (same fault).mp named⟩
  upset fault named := h.upset fault ((same fault).mpr named)

/-- One step after another: a fault comes from the first, or from the second
after the first has gone well. -/
theorem Settled.bind {f : α → Except Problem β} {Next : β → Prop} {Later : α → Fault → Prop}
    (h : Settled outcome Good Upsets)
    (next : ∀ a, Good a → Settled (f a) Next (Later a)) :
    Settled (outcome >>= f) Next
      fun fault => Upsets fault ∨ ∃ a, outcome = .ok a ∧ Later a fault := by
  cases outcome with
  | error p =>
    refine ⟨fun b same => (by cases same), fun q same => ?_, ?_⟩
    · obtain rfl := Except.error.inj same
      exact (h.refused p rfl).imp_right fun ⟨fault, is, named⟩ => ⟨fault, is, Or.inl named⟩
    · rintro fault (named | ⟨a, same, -⟩)
      · rw [Except.error.inj (h.upset fault named)]
        rfl
      · cases same
  | ok a =>
    have settled := next a (h.good a rfl)
    refine ⟨settled.good, fun p same => ?_, ?_⟩
    · exact (settled.refused p same).imp_right fun ⟨fault, is, named⟩ =>
        ⟨fault, is, Or.inr ⟨a, rfl, named⟩⟩
    · rintro fault (named | ⟨b, same, named⟩)
      · cases h.upset fault named
      · obtain rfl := Except.ok.inj same
        exact settled.upset fault named

end Rules

/-! ## 2. Ports -/

/-- The report about an infinite port. -/
def Port.infiniteReport : Fault := ⟨.overflow, "cannot convert float infinity to integer"⟩

/-- The faults of a port that nothing handles: it is infinite, or the message
that refuses it cannot show it. -/
inductive Port.Upsets (depths : Json.Depths) : Json → Fault → Prop
  | infinite (negative : Bool) :
      Upsets depths (.number (.double (.infinite negative))) Port.infiniteReport
  | illegible {written : Json} {fault : Fault} :
      written.obstacle? depths.message = some fault → Upsets depths written fault

namespace Port

/-- What means the default port is shown without trouble. -/
theorem obstacle?_of_isUnset {written : Json} (h : isUnset written = true) :
    written.obstacle? depths.message = none := by
  cases written with
  | null | text _ => exact Json.obstacle?_of_pos depths.message_pos rfl
  | _ => cases h

/-- What can be a port is shown without trouble. -/
theorem obstacle?_of_wholeNumber {written : Json} {n : Int} (h : wholeNumber written = .ok n)
    (range : 0 < n ∧ n < 65536) : written.obstacle? depths.message = none := by
  refine Json.obstacle?_of_pos depths.message_pos ?_
  cases written with
  | null => rfl
  | bool b => rfl
  | text s => rfl
  | list items => cases h
  | object fields => cases h
  | number x =>
    cases x with
    | double x => rfl
    | whole m =>
      obtain rfl := Except.ok.inj h
      have digits : Decimal.Binary64.digitCount m.natAbs ≤ 5 :=
        (Nat.length_toDigits_le_iff (by decide) (by decide)).mpr (by omega)
      have short : ¬ Decimal.Binary64.digitCount m.natAbs > Decimal.digitLimit := by
        have : 5 ≤ Decimal.digitLimit := by decide
        omega
      exact if_neg short

/-- A value that makes no whole number is refused, unless it is infinite. -/
theorem wholeNumber_error {written : Json} {fault : Fault}
    (h : wholeNumber written = .error fault) :
    (∃ negative, written = .number (.double (.infinite negative)) ∧
        fault = Port.infiniteReport) ∨
      (fault.kind.isValueFault || fault.kind == .wrongType) = true ∧
        ∀ negative, written ≠ .number (.double (.infinite negative)) := by
  cases written with
  | null => cases h; exact Or.inr ⟨rfl, by simp⟩
  | bool b => cases h
  | list items => cases h; exact Or.inr ⟨rfl, by simp⟩
  | object fields => cases h; exact Or.inr ⟨rfl, by simp⟩
  | text s =>
    rw [wholeNumber] at h
    split at h
    · cases h
    · cases h
      exact Or.inr ⟨rfl, by simp⟩
  | number x =>
    cases x with
    | whole n => cases h
    | double x =>
      cases x with
      | nan => cases h; exact Or.inr ⟨rfl, by simp⟩
      | infinite negative => exact Or.inl ⟨negative, rfl, (Except.error.inj h).symm⟩
      | finite negative s e => cases h

/-- What is not infinite upsets nothing but the message. -/
theorem upsets_iff {written : Json}
    (finite : ∀ negative, written ≠ .number (.double (.infinite negative))) (fault : Fault) :
    written.obstacle? depths.message = some fault ↔ Upsets depths written fault := by
  constructor
  · exact .illegible
  · rintro (negative | shown)
    · exact absurd rfl (finite negative)
    · exact shown

/-- How a port is settled. -/
theorem settled_read (depths : Json.Depths) (written : Json) :
    Settled (read written depths) (fun n => 1 ≤ n ∧ n ≤ 65535) (Upsets depths written) := by
  unfold read
  split
  · rename_i unset
    have plain : ∀ fault, ¬ Upsets depths written fault := by
      rintro fault (negative | hidden)
      · cases unset
      · rw [obstacle?_of_isUnset unset] at hidden
        cases hidden
    exact settled_ok (by decide) plain
  · split
    · rename_i n whole
      have finite : ∀ negative, written ≠ .number (.double (.infinite negative)) := by
        rintro negative rfl
        cases whole
      split
      · rename_i range
        refine settled_ok (by omega) fun fault named => ?_
        rw [← upsets_iff finite, obstacle?_of_wholeNumber whole range] at named
        cases named
      · exact (settled_refusing written _ _).mono (fun _ => id) (upsets_iff finite)
    · rename_i fault failed
      rcases wholeNumber_error failed with ⟨negative, rfl, rfl⟩ | ⟨refused, finite⟩
      · refine settled_fault fun other => ⟨?_, ?_⟩
        · rintro (_ | hidden)
          · rfl
          · rw [Json.obstacle?_of_pos depths.message_pos rfl] at hidden
            cases hidden
        · rintro rfl
          exact .infinite negative
      · rw [if_pos refused]
        exact (settled_refusing written _ _).mono (fun _ => id) (upsets_iff finite)

end Port

namespace Credentials

/-! ## 3. Parts of credentials -/

theorem hostOf_text (host : String) :
    hostOf (.text host) depths = if Address.isValidHost host then .ok host
      else .error (.misconfigured (if host = "" then .noHost else .invalidHost (.text host))) := by
  rw [hostOf, Address.checkHost_eq]
  split
  · rfl
  · split
    · rfl
    · rfl

/-- A host that is a text is refused, or given back as it is if it is valid. -/
theorem settled_hostOf (depths : Json.Depths) (host : String) :
    Settled (hostOf (.text host) depths) (fun h => h = host ∧ Address.isValidHost host = true)
      fun _ => False := by
  rw [hostOf_text]
  split
  · rename_i valid
    exact settled_ok ⟨rfl, valid⟩ fun _ => id
  · exact settled_refusal _ _ fun _ => id

/-- A field is given that cannot be shown as a text. -/
def Illegible (depths : Json.Depths) (fields : List (String × Json)) (key : String)
    (fault : Fault) : Prop :=
  ∃ j, Json.field? key fields = some j ∧ j.isGiven = true ∧
    j.obstacle? depths.text = some fault

/-- What a field gives is a value that is given. -/
theorem bind_given_eq_some {fields : List (String × Json)} {key : String} {j : Json} :
    (Json.field? key fields).bind Json.given? = some j ↔
      Json.field? key fields = some j ∧ j.isGiven = true := by
  cases Json.field? key fields with
  | none => simp
  | some value =>
    by_cases given : value.isGiven = true
    · have kept : (some value).bind Json.given? = some value := if_pos given
      rw [kept]
      exact ⟨fun same => ⟨same, Option.some.inj same ▸ given⟩, And.left⟩
    · have dropped : (some value).bind Json.given? = none := if_neg given
      rw [dropped]
      refine ⟨fun same => (by cases same), fun ⟨same, other⟩ => ?_⟩
      exact absurd (Option.some.inj same ▸ other) given

theorem settled_textField (depths : Json.Depths) (fields : List (String × Json)) (key : String) :
    Settled (textField fields key depths) (fun j => ∃ s, j = .text s)
      (Illegible depths fields key) := by
  have named (fault : Fault) : Illegible depths fields key fault ↔
      ∃ j, (Json.field? key fields).bind Json.given? = some j ∧
        j.obstacle? depths.text = some fault := by
    simp only [Illegible, bind_given_eq_some, and_assoc]
  refine Settled.mono ?_ (fun _ => id) fun fault => (named fault).symm
  unfold textField
  cases (Json.field? key fields).bind Json.given? with
  | none => exact settled_ok ⟨"", rfl⟩ (by simp)
  | some j =>
    dsimp only
    unfold Json.toText
    cases shown : j.obstacle? depths.text with
    | none =>
      refine settled_ok ⟨j.asText, rfl⟩ ?_
      rintro fault ⟨_, ⟨⟩, found⟩
      rw [shown] at found
      cases found
    | some fault =>
      refine settled_fault fun other => ⟨?_, ?_⟩
      · rintro ⟨_, ⟨⟩, found⟩
        exact (Option.some.inj (shown.symm.trans found)).symm
      · rintro rfl
        exact ⟨j, rfl, shown⟩

/-- The key material of credentials, if a key is given. -/
def keyOf (fields : List (String × Json)) : Except Problem (Option (List UInt8)) :=
  match (Json.field? "privateKey" fields).bind Json.given? with
  | none => .ok none
  | some encoded => some <$> decodeKey encoded

/-- The report about a key that is no text. -/
def notSplittable (j : Json) : Fault :=
  ⟨.missingAttribute, s!"'{j.kindWord}' object has no attribute 'split'"⟩

/-- A key is given that is no text. -/
def WrongKey (fields : List (String × Json)) (fault : Fault) : Prop :=
  ∃ j, Json.field? "privateKey" fields = some j ∧ j.isGiven = true ∧ j.text? = none ∧
    fault = notSplittable j

theorem settled_decodeKey (encoded : Json) :
    Settled (decodeKey encoded) (fun _ => True)
      fun fault => encoded.text? = none ∧ fault = notSplittable encoded := by
  cases encoded with
  | text s =>
    have never (fault : Fault) :
        ¬ ((Json.text s).text? = none ∧ fault = notSplittable (.text s)) := by
      rintro ⟨none, -⟩
      cases none
    rw [decodeKey]
    split
    · exact settled_ok trivial never
    · exact settled_refusal _ _ never
  | _ => exact settled_fault fun other => ⟨And.right, fun same => ⟨rfl, same⟩⟩

theorem settled_keyOf (fields : List (String × Json)) :
    Settled (keyOf fields) (fun _ => True) (WrongKey fields) := by
  have named (fault : Fault) : WrongKey fields fault ↔
      ∃ j, (Json.field? "privateKey" fields).bind Json.given? = some j ∧
        j.text? = none ∧ fault = notSplittable j := by
    simp only [WrongKey, bind_given_eq_some, and_assoc]
  refine Settled.mono ?_ (fun _ => id) fun fault => (named fault).symm
  unfold keyOf
  cases (Json.field? "privateKey" fields).bind Json.given? with
  | none => exact settled_ok trivial (by simp)
  | some encoded =>
    have kept (key : List UInt8) : Settled (.ok (some key) : Except Problem (Option (List UInt8)))
        (fun _ => True) fun _ => False := settled_ok trivial fun _ => id
    exact ((settled_decodeKey encoded).bind fun key _ => kept key).mono (fun _ => id)
      fun fault => by simp

/-! ## 4. Checking -/

/-- Credentials with which a login can be tried: a user name, a valid host, a
port in range, and either a password or a key. -/
structure Sound (c : Credentials) : Prop where
  username : ∃ s, c.username = .text s ∧ s ≠ ""
  host : Address.isValidHost c.host = true
  port : 1 ≤ c.port ∧ c.port ≤ 65535
  secret : c.password.isGiven = !c.hasKey

/-- Exactly one secret is wanted. -/
def checkSecrets (c : Credentials) : Except Problem Credentials :=
  if c.password.isGiven = !c.hasKey then .ok c
  else .error (.misconfigured (if c.hasKey then .twoSecrets else .noSecret))

theorem settled_checkSecrets {c : Credentials} (username : ∃ s, c.username = .text s ∧ s ≠ "")
    (host : Address.isValidHost c.host = true) (port : 1 ≤ c.port ∧ c.port ≤ 65535) :
    Settled (checkSecrets c) Sound fun _ => False := by
  unfold checkSecrets
  split
  · rename_i one
    exact settled_ok ⟨username, host, port, one⟩ fun _ => id
  · exact settled_refusal _ _ fun _ => id

theorem make_eq (host username port password : Json) (key : Option (List UInt8))
    (knownHosts : Json) (given : username.isGiven = true) :
    make host username port password key knownHosts depths =
      (hostOf host depths >>= fun h => Port.read port depths >>= fun n =>
        checkSecrets ⟨h, username, n, password, key, knownHosts⟩) := by
  unfold make
  rw [given]
  rcases hostOf host depths with p | h
  · rfl
  · rcases Port.read port depths with p | n
    · rfl
    · dsimp only [bind, Except.bind]
      unfold checkSecrets
      cases password.isGiven <;> cases hasKey _ <;> rfl

theorem settled_make (depths : Json.Depths) (host username : String) (port password : Json)
    (key : Option (List UInt8)) (knownHosts : Json) :
    Settled (make (.text host) (.text username) port password key knownHosts depths) Sound
      fun fault => username ≠ "" ∧ Address.isValidHost host = true ∧
        Port.Upsets depths port fault := by
  by_cases empty : username = ""
  · subst empty
    exact settled_refusal _ _ (by simp)
  · rw [make_eq _ _ _ _ _ _ (by simpa [Json.isGiven] using empty)]
    have steps := (settled_hostOf depths host).bind fun h hh =>
      (Port.settled_read depths port).bind fun n hn =>
        settled_checkSecrets (c := ⟨h, .text username, n, password, key, knownHosts⟩)
          ⟨username, rfl, empty⟩ (hh.1 ▸ hh.2) hn
    refine steps.mono (fun _ => id) fun fault => ?_
    simp only [false_or, and_false, exists_false, or_false, hostOf_text, ne_eq, empty,
      not_false_eq_true, true_and]
    cases Address.isValidHost host with
    | true => simp
    | false => simp

end Credentials

/-! ## 5. Payloads -/

namespace Payload

/-- The payload is made of octets, or is a text or a mapping. -/
def Proper : Payload → Prop
  | .octets _ | .value (.text _) | .value (.object _) => True
  | .value _ => False

/-- The payload is made of octets, or is a text, that is, it has to be read. -/
def Unread : Payload → Prop
  | .octets _ | .value (.text _) => True
  | .value _ => False

/-- The payload writes a document that is nested too deep in containers of
some kind. -/
def TooDeep (depths : Json.Depths) (container : Json.Container) : Payload → Prop
  | .octets bytes => ∃ s, Encoding.decodeDocument bytes = .ok s ∧
      Json.read s depths = .error (.tooDeep container)
  | .value (.text s) => Json.readUnmarked s.toList depths = .error (.tooDeep container)
  | .value _ => False

/-- The report about a document that is nested too deep. -/
def tooDeepReport (container : Json.Container) : Fault :=
  ⟨.tooDeep, (Json.Flaw.tooDeep container).message []⟩

end Payload

namespace Credentials

/-- How the fields of a document are settled: what cannot be made sense of is
a misconfiguration, other faults are not handled. -/
theorem settled_fieldsOfDocument (document : Except Fault Json) :
    Settled (fieldsOfDocument document) (fun _ => True)
      fun fault => document = .error fault ∧ fault.kind.isValueFault = false := by
  rcases document with fault | j
  · unfold fieldsOfDocument
    dsimp only
    split
    · rename_i value
      refine settled_refusal _ _ fun other named => ?_
      obtain ⟨⟨⟩, other⟩ := named
      rw [value] at other
      cases other
    · rename_i other
      refine settled_fault fun found => ⟨fun named => (Except.error.inj named.1).symm, ?_⟩
      rintro rfl
      exact ⟨rfl, by simpa using other⟩
  · cases j with
    | object fields => exact settled_ok trivial (by simp)
    | _ => exact settled_refusal _ _ (by simp)

/-- The only flaw of a text that is not a matter of sense is its depth. -/
theorem readDocument_eq_error {s : List Char} {unmarked : Bool} {fault : Fault} :
    readDocument s unmarked depths = .error fault ∧ fault.kind.isValueFault = false ↔
      ∃ container, (if unmarked then Json.readUnmarked s depths else Json.read s depths) =
        .error (.tooDeep container) ∧ fault = Payload.tooDeepReport container := by
  unfold readDocument
  rcases (if unmarked then Json.readUnmarked s depths else Json.read s depths) with flaw | j
  · cases flaw with
    | malformed what position =>
      constructor
      · rintro ⟨⟨⟩, other⟩
        cases other
      · rintro ⟨_, ⟨⟩, -⟩
    | tooManyDigits count =>
      constructor
      · rintro ⟨⟨⟩, other⟩
        cases other
      · rintro ⟨_, ⟨⟩, -⟩
    | tooDeep container =>
      constructor
      · rintro ⟨⟨⟩, -⟩
        exact ⟨container, rfl, rfl⟩
      · rintro ⟨_, ⟨⟩, rfl⟩
        exact ⟨rfl, rfl⟩
  · simp

/-- How the fields of a payload are settled. -/
theorem settled_fieldsOf {payload : Payload} (proper : payload.Proper) :
    Settled (fieldsOf payload depths) (fun _ => True)
      fun fault => ∃ container, payload.TooDeep depths container ∧
        fault = Payload.tooDeepReport container := by
  cases payload with
  | octets bytes =>
    refine (settled_fieldsOfDocument _).mono (fun _ => id) fun fault => ?_
    simp only [Payload.TooDeep]
    cases decoded : Encoding.decodeDocument bytes with
    | error undecoded =>
      constructor
      · rintro ⟨⟨⟩, other⟩
        cases other
      · rintro ⟨_, ⟨_, ⟨⟩, -⟩, -⟩
    | ok s =>
      dsimp only
      rw [readDocument_eq_error]
      simp
  | value j =>
    cases j with
    | text s =>
      exact (settled_fieldsOfDocument _).mono (fun _ => id) fun fault => readDocument_eq_error
    | object fields => exact settled_ok trivial (by simp [Payload.TooDeep])
    | _ => exact proper.elim

theorem fieldsOfDocument_eq_ok {document : Except Fault Json} {fields : List (String × Json)}
    (h : fieldsOfDocument document = .ok fields) : document = .ok (.object fields) := by
  unfold fieldsOfDocument at h
  split at h
  · rw [Except.ok.inj h]
  · cases h
  · split at h
    · cases h
    · cases h

/-- What is read as a document was read by the reader. -/
theorem read_of_readDocument {s : List Char} {unmarked : Bool} {j : Json}
    (h : readDocument s unmarked depths = .ok j) : Json.read s depths = .ok j := by
  unfold readDocument at h
  split at h
  · rename_i read
    rw [← Except.ok.inj h]
    split at read
    · unfold Json.readUnmarked at read
      split at read
      · cases read
      · exact read
    · exact read
  · split at h
    · cases h
    · cases h
    · cases h

/-- The fields that were read can be shown wherever they are. -/
theorem legible_of_fieldsOf {payload : Payload} (unread : payload.Unread)
    {fields : List (String × Json)} (h : fieldsOf payload depths = .ok fields) {key : String}
    {j : Json} (found : Json.field? key fields = some j) :
    j.obstacle? depths.text = none ∧ j.obstacle? depths.message = none := by
  suffices read : ∃ s, Json.read s depths = .ok (.object fields) by
    obtain ⟨s, read⟩ := read
    exact Json.legible_field_of_read read found
  cases payload with
  | octets bytes =>
    have document := fieldsOfDocument_eq_ok h
    split at document
    · exact ⟨_, read_of_readDocument document⟩
    · cases document
  | value j =>
    cases j with
    | text s => exact ⟨_, read_of_readDocument (fieldsOfDocument_eq_ok h)⟩
    | _ => exact unread.elim

end Credentials

/-! ## 6. What is not handled -/

/-- The faults of a payload that nothing handles, in the order in which its
parts are looked at. -/
inductive Payload.Upsets (payload : Payload) (depths : Json.Depths) : Fault → Prop
  /-- The document is nested too deep. -/
  | document {container : Json.Container} : payload.TooDeep depths container →
      payload.Upsets depths (tooDeepReport container)
  /-- The key is no text. -/
  | key {fields : List (String × Json)} {fault : Fault} :
      Credentials.fieldsOf payload depths = .ok fields → Credentials.WrongKey fields fault →
      payload.Upsets depths fault
  /-- The host cannot be shown. -/
  | host {fields : List (String × Json)} {material : Option (List UInt8)} {fault : Fault} :
      Credentials.fieldsOf payload depths = .ok fields → Credentials.keyOf fields = .ok material →
      Credentials.Illegible depths fields "hostIP" fault → payload.Upsets depths fault
  /-- The user name cannot be shown. -/
  | username {fields : List (String × Json)} {material : Option (List UInt8)} {host : Json}
      {fault : Fault} :
      Credentials.fieldsOf payload depths = .ok fields → Credentials.keyOf fields = .ok material →
      Credentials.textField fields "hostIP" depths = .ok host →
      Credentials.Illegible depths fields "username" fault → payload.Upsets depths fault
  /-- The port is infinite or cannot be shown, and all before it is in order. -/
  | port {fields : List (String × Json)} {material : Option (List UInt8)}
      {host username : String} {fault : Fault} :
      Credentials.fieldsOf payload depths = .ok fields → Credentials.keyOf fields = .ok material →
      Credentials.textField fields "hostIP" depths = .ok (.text host) →
      Credentials.textField fields "username" depths = .ok (.text username) →
      username ≠ "" → Address.isValidHost host = true →
      Port.Upsets depths (Credentials.fieldOrNull fields "hostPort") fault → payload.Upsets depths fault

namespace Credentials

theorem ofFields_eq (depths : Json.Depths) (fields : List (String × Json)) :
    ofFields fields depths = (keyOf fields >>= fun key =>
      textField fields "hostIP" depths >>= fun host =>
        textField fields "username" depths >>= fun username =>
          make host username (fieldOrNull fields "hostPort") (givenField fields "password") key
            (givenField fields "knownHosts") depths) := by
  unfold ofFields keyOf
  cases (Json.field? "privateKey" fields).bind Json.given? with
  | none => rfl
  | some encoded => rfl

theorem ofPayload_eq (payload : Payload) :
    (ofPayload payload depths).2 = fieldsOf payload depths >>= (ofFields · depths) := by
  unfold ofPayload
  cases fieldsOf payload depths with
  | error p => rfl
  | ok fields => rfl

/-- How a payload is settled. -/
theorem settled_ofPayload {payload : Payload} (proper : payload.Proper) :
    Settled (ofPayload payload depths).2 Sound (payload.Upsets depths) := by
  have made (fields : List (String × Json)) (key : Option (List UInt8)) (host username : Json)
      (hh : ∃ s, host = .text s) (hu : ∃ s, username = .text s) :
      Settled (make host username (fieldOrNull fields "hostPort") (givenField fields "password")
          key (givenField fields "knownHosts") depths) Sound
        fun fault => ∃ h u, host = .text h ∧ username = .text u ∧ u ≠ "" ∧
          Address.isValidHost h = true ∧
            Port.Upsets depths (fieldOrNull fields "hostPort") fault := by
    obtain ⟨h, rfl⟩ := hh
    obtain ⟨u, rfl⟩ := hu
    exact (settled_make depths h u _ _ key _).mono (fun _ => id) fun fault => by simp
  have parts (fields : List (String × Json)) := ofFields_eq depths fields ▸
    (settled_keyOf fields).bind fun key _ =>
      (settled_textField depths fields "hostIP").bind fun host hh =>
        (settled_textField depths fields "username").bind fun username hu =>
          made fields key host username hh hu
  rw [ofPayload_eq]
  refine ((settled_fieldsOf proper).bind fun fields _ => parts fields).mono (fun _ => id)
    fun fault => ⟨?_, ?_⟩
  · rintro (⟨container, deep, rfl⟩ | ⟨fields, written, wrong | ⟨key, read, hidden | ⟨host, named,
      hidden | ⟨_, titled, h, u, rfl, rfl, some, valid, port⟩⟩⟩⟩)
    · exact .document deep
    · exact .key written wrong
    · exact .host written read hidden
    · exact .username written read named hidden
    · exact .port written read named titled some valid port
  · rintro (deep | ⟨written, wrong⟩ | ⟨written, read, hidden⟩ | ⟨written, read, named, hidden⟩ |
      ⟨written, read, named, titled, some, valid, port⟩)
    · exact Or.inl ⟨_, deep, rfl⟩
    · exact Or.inr ⟨_, written, Or.inl wrong⟩
    · exact Or.inr ⟨_, written, Or.inr ⟨_, read, Or.inl hidden⟩⟩
    · exact Or.inr ⟨_, written, Or.inr ⟨_, read, Or.inr ⟨_, named, Or.inl hidden⟩⟩⟩
    · exact Or.inr ⟨_, written, Or.inr ⟨_, read, Or.inr ⟨_, named, Or.inr ⟨_, titled, _, _, rfl,
        rfl, some, valid, port⟩⟩⟩⟩

/-- A port that can be shown upsets only if it is infinite. -/
theorem infinite_of_upsets {fields : List (String × Json)} {fault : Fault}
    (legible : ∀ j, Json.field? "hostPort" fields = some j →
      j.obstacle? depths.message = none)
    (h : Port.Upsets depths (fieldOrNull fields "hostPort") fault) : ∃ negative,
      Json.field? "hostPort" fields = some (.number (.double (.infinite negative))) ∧
        fault = Port.infiniteReport := by
  unfold fieldOrNull at h
  rcases found : Json.field? "hostPort" fields with _ | j
  · rw [found] at h
    obtain _ | hidden := h
    rw [Option.getD_none, Json.obstacle?_of_pos depths.message_pos rfl] at hidden
    cases hidden
  · rw [found, Option.getD_some] at h
    obtain negative | hidden := h
    · exact ⟨negative, rfl, rfl⟩
    · rw [legible j found] at hidden
      cases hidden

/-- Of a payload that is read, only three faults are not handled: the document
is nested too deep, the key is no text, or the port is infinite. -/
theorem upsets_of_unread {payload : Payload} (unread : payload.Unread) {fault : Fault}
    (h : payload.Upsets depths fault) :
    (∃ container, payload.TooDeep depths container ∧ fault = Payload.tooDeepReport container) ∨
      ∃ fields, fieldsOf payload depths = .ok fields ∧
        (WrongKey fields fault ∨ ∃ negative,
          Json.field? "hostPort" fields = some (.number (.double (.infinite negative))) ∧
            fault = Port.infiniteReport) := by
  have legible {fields : List (String × Json)} (written : fieldsOf payload depths = .ok fields)
      {key : String} : ¬ Illegible depths fields key fault := by
    rintro ⟨j, found, -, hidden⟩
    rw [(legible_of_fieldsOf unread written found).1] at hidden
    cases hidden
  cases h with
  | document deep => exact Or.inl ⟨_, deep, rfl⟩
  | key written wrong => exact Or.inr ⟨_, written, Or.inl wrong⟩
  | host written _ hidden => exact absurd hidden (legible written)
  | username written _ _ hidden => exact absurd hidden (legible written)
  | port written _ _ _ _ _ port =>
    exact Or.inr ⟨_, written, Or.inr (infinite_of_upsets
      (fun j found => (legible_of_fieldsOf unread written found).2) port)⟩

end Credentials

/-! ## 7. What is accepted -/

/-- The payload writes the parts of the credentials, each as it is read. -/
structure Payload.Writes (payload : Payload) (depths : Json.Depths)
    (fields : List (String × Json)) (c : Credentials) : Prop where
  written : Credentials.fieldsOf payload depths = .ok fields
  key : Credentials.keyOf fields = .ok c.privateKey
  host : Credentials.textField fields "hostIP" depths = .ok (.text c.host)
  username : Credentials.textField fields "username" depths = .ok c.username
  port : Port.read (Credentials.fieldOrNull fields "hostPort") depths = .ok c.port
  password : Credentials.givenField fields "password" = c.password
  knownHosts : Credentials.givenField fields "knownHosts" = c.knownHosts

namespace Credentials

theorem make_eq_ok {host username port password knownHosts : Json} {key : Option (List UInt8)}
    {c : Credentials} (h : make host username port password key knownHosts depths = .ok c) :
    hostOf host depths = .ok c.host ∧ username = c.username ∧ Port.read port depths = .ok c.port ∧
      password = c.password ∧ key = c.privateKey ∧ knownHosts = c.knownHosts := by
  have given : username.isGiven = true := by
    by_contra absent
    unfold make at h
    rw [Bool.eq_false_iff.mpr absent] at h
    cases h
  rw [make_eq _ _ _ _ _ _ given] at h
  obtain ⟨host', named, h⟩ := Json.exists_of_bind_eq_ok h
  obtain ⟨n, read, h⟩ := Json.exists_of_bind_eq_ok h
  unfold checkSecrets at h
  split at h
  · obtain rfl := Except.ok.inj h
    exact ⟨named, rfl, read, rfl, rfl, rfl⟩
  · cases h

/-- What is accepted was written. -/
theorem writes_of_ofPayload {payload : Payload} {c : Credentials}
    (h : (ofPayload payload depths).2 = .ok c) : ∃ fields, payload.Writes depths fields c := by
  rw [ofPayload_eq] at h
  obtain ⟨fields, written, h⟩ := Json.exists_of_bind_eq_ok h
  rw [ofFields_eq] at h
  obtain ⟨key, read, h⟩ := Json.exists_of_bind_eq_ok h
  obtain ⟨host, named, h⟩ := Json.exists_of_bind_eq_ok h
  obtain ⟨username, titled, h⟩ := Json.exists_of_bind_eq_ok h
  obtain ⟨hosted, rfl, port, password, rfl, knownHosts⟩ := make_eq_ok h
  obtain ⟨text, rfl⟩ := (settled_textField depths fields "hostIP").good _ named
  obtain ⟨same, -⟩ := (settled_hostOf depths text).good _ hosted
  exact ⟨fields, written, read, same ▸ named, titled, port, password, knownHosts⟩

/-- Sound credentials that are written are accepted. -/
theorem ofPayload_of_writes {payload : Payload} {fields : List (String × Json)} {c : Credentials}
    (sound : c.Sound) (h : payload.Writes depths fields c) :
    (ofPayload payload depths).2 = .ok c := by
  obtain ⟨username, titled, some⟩ := sound.username
  have given : c.username.isGiven = true := by
    rw [titled]
    simpa [Json.isGiven] using some
  rw [ofPayload_eq, h.written]
  show ofFields fields depths = _
  rw [ofFields_eq, h.key, h.host, h.username, h.password, h.knownHosts]
  show make _ _ _ _ _ _ _ = _
  rw [make_eq _ _ _ _ _ _ given, hostOf_text, if_pos sound.host, h.port]
  exact if_pos sound.secret

/-! ## 8. Logging in -/

theorem method_eq_publickey {c : Credentials} : c.method = "publickey" ↔ c.hasKey = true := by
  unfold method
  cases c.hasKey with
  | true => simp
  | false => simp

theorem method_eq_password {c : Credentials} : c.method = "password" ↔ c.hasKey = false := by
  unfold method
  cases c.hasKey with
  | true => simp
  | false => simp

theorem exists_of_hasKey {c : Credentials} (h : c.hasKey = true) :
    ∃ material, c.privateKey = some material := by
  cases key : c.privateKey with
  | none => simp [hasKey, key] at h
  | some material => exact ⟨material, rfl⟩

end Credentials

/-- A login offers the key alone if the credentials name that way, the
password alone if they name that one, and never an agent. -/
structure Login.Follows (l : Login) (c : Credentials) : Prop where
  key : c.method = "publickey" ↔
    ∃ material, c.privateKey = some material ∧ l = { key := some material }
  password : c.method = "password" ↔ l = { password := c.password }
  agent : l.agent = none

namespace Connection

open Upkeep.Act

variable {σ : Type}

/-- If the key can be imported, the login follows the credentials. -/
theorem login_follows (env : Surroundings σ) (c : Credentials) (w : World σ)
    (imports : c.hasKey = true → env.host.importKey (c.privateKey.getD []) w.host = .ok ()) :
    ∃ l, (login env c).runOn w = (.ok l, w) ∧ l.Follows c := by
  cases keyed : c.hasKey with
  | true =>
    obtain ⟨material, same⟩ := Credentials.exists_of_hasKey keyed
    refine ⟨{ key := some material }, ?_, ?_, ?_, rfl⟩
    · unfold login
      rw [keyed, if_pos rfl, runOn_get_bind, imports keyed, same]
      rfl
    · simp [Credentials.method_eq_publickey, keyed, same]
    · simp [Credentials.method_eq_password, keyed]
  | false =>
    refine ⟨{ password := c.password }, ?_, ?_, ?_, rfl⟩
    · unfold login
      rw [keyed]
      rfl
    · simp [Credentials.method_eq_publickey, keyed]
    · simp [Credentials.method_eq_password, keyed]

end Connection

/-! ## 9. Decoding -/

namespace Credentials

/-- What comes of a payload: the credentials that it writes if they are sound,
with which the login offers their one secret, or a misconfiguration, or a
fault that nothing handles. The faults are those of `Payload.Upsets`, and of
a payload that has to be read only three of them: its document is nested too
deep, its key is no text, or its port is infinite. -/
theorem ofPayload_settled {payload : Payload} (depths : Json.Depths) (proper : payload.Proper) :
    (∀ c, (ofPayload payload depths).2 = .ok c ↔
      c.Sound ∧ ∃ fields, payload.Writes depths fields c) ∧
    (∀ (c : Credentials) (σ : Type) (env : Surroundings σ) (w : World σ),
      (c.hasKey = true → env.host.importKey (c.privateKey.getD []) w.host = .ok ()) →
        ∃ l, (Connection.login env c).runOn w = (.ok l, w) ∧ l.Follows c) ∧
    (∀ p, (ofPayload payload depths).2 = .error p →
      p.Refuses ∨ ∃ fault, p = .fault fault ∧ payload.Upsets depths fault) ∧
    (∀ fault, payload.Upsets depths fault →
      (ofPayload payload depths).2 = .error (.fault fault)) ∧
    (payload.Unread → ∀ fault, payload.Upsets depths fault →
      (∃ container, payload.TooDeep depths container ∧ fault = Payload.tooDeepReport container) ∨
        ∃ fields, fieldsOf payload depths = .ok fields ∧
          (WrongKey fields fault ∨ ∃ negative,
            Json.field? "hostPort" fields = some (.number (.double (.infinite negative))) ∧
              fault = Port.infiniteReport)) := by
  obtain ⟨good, refused, upset⟩ := settled_ofPayload proper
  refine ⟨fun c => ⟨fun accepted => ?_, ?_⟩, ?_, refused, upset, ?_⟩
  · exact ⟨good c accepted, writes_of_ofPayload accepted⟩
  · rintro ⟨sound, fields, written⟩
    exact ofPayload_of_writes sound written
  · exact fun c σ env w imports => Connection.login_follows env c w imports
  · exact fun unread fault => upsets_of_unread unread

/-- Credentials with a key, with which the login offers that key. -/
theorem ofPayload_settled_key :
    let payload : Payload := .value (.object [("hostIP", .text "10.0.0.1"),
      ("username", .text "root"), ("hostPort", .text "2222"), ("privateKey", .text "Kg==")])
    let c : Credentials :=
      { host := "10.0.0.1", username := .text "root", port := 2222, privateKey := some [0x2A] }
    let env : Surroundings Unit :=
      { host := .unreachable, token := fun n => toString n, clock := fun n => toString n }
    payload.Proper ∧ (ofPayload payload .usual).2 = .ok c ∧ c.Sound ∧
      ∃ l, (Connection.login env c).runOn { host := () } = (.ok l, { host := () }) ∧
        l.Follows c := by
  intro payload c env
  have proper : payload.Proper := trivial
  have accepted : (ofPayload payload .usual).2 = .ok c := rfl
  obtain ⟨settled, follows, -⟩ := ofPayload_settled .usual proper
  have sound := ((settled c).mp accepted).1
  exact ⟨proper, accepted, sound, follows c Unit env { host := () } fun _ => rfl⟩

/-- A mapping with a number in the place of the key, and one with an infinite
port, raise what is no misconfiguration. -/
theorem ofPayload_upset_by_number :
    (∃ p, (ofPayload (.value (.object [("hostIP", .text "10.0.0.1"), ("username", .text "root"),
        ("privateKey", .number (.whole 5))])) .usual).2 = .error p ∧ ¬ p.Refuses) ∧
    ∃ p, (ofPayload (.value (.object [("hostIP", .text "10.0.0.1"), ("username", .text "root"),
        ("password", .text "secret"),
        ("hostPort", .number (.double (.infinite false)))])) .usual).2 = .error p ∧ ¬ p.Refuses := by
  have unhandled (fault : Fault) : ¬ (Problem.fault fault).Refuses := by
    rintro ⟨what, cause, ⟨⟩⟩
  exact ⟨⟨_, rfl, unhandled _⟩, _, rfl, unhandled _⟩

end Credentials

end Upkeep
