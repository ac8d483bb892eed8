/-
Upkeep.Proofs.Veil — what the service knows when its secrets are covered.

A secret is a password that is a text, and not empty, or a private key that
encodes key material. A *veil* puts one sign in the place of every password
and one in the place of every key, and leaves the rest as it is:
`Credentials.veilDocument` on credentials as they arrive, `Credentials.veil`
on credentials that were read, and from there on everything that holds one
of them, up to the state of the service (`World.veil`). Two values that are
equal under the veil differ in their secrets alone.

Reading credentials respects the veil (`Credentials.ofPayload_of_veil`): of
two documents that differ in their secrets alone, both are refused for the
same reason or both are accepted, with the same records, and what comes of
them differs in the secrets alone.
-/
import Upkeep.World

namespace Upkeep

/-! ## 1. Secrets -/

namespace Credentials

/-- The value is a password that is worth keeping: a text, and not empty. -/
def isPassword (j : Json) : Bool := j.text?.any fun s => !s.isEmpty

/-- A password under the veil. -/
def veilPassword (j : Json) : Json := if isPassword j then .text "*" else j

/-- Key material under the veil: one octet, unless there is none. -/
def veilMaterial (key : List UInt8) : List UInt8 := if key.isEmpty then key else [0x2A]

/-- The value encodes some key material. -/
def encodesKey (j : Json) : Bool := (decodeKey j).toOption.any fun key => !key.isEmpty

/-- An encoded key under the veil. -/
def veilKey (j : Json) : Json := if encodesKey j then .text "Kg==" else j

/-- A field of credentials under the veil. -/
def veilField (key : String) (j : Json) : Json :=
  if key = "password" then veilPassword j else if key = "privateKey" then veilKey j else j

/-- The fields of credentials under the veil. -/
def veilFields (fields : List (String × Json)) : List (String × Json) :=
  fields.map fun e => (e.1, veilField e.1 e.2)

/-- Credentials as they arrive, under the veil. -/
def veilDocument (j : Json) : Json :=
  match j with
  | .object fields => .object (veilFields fields)
  | j => j

/-- Credentials that were read, under the veil. -/
def veil (c : Credentials) : Credentials :=
  { c with
    password := veilPassword c.password
    privateKey := c.privateKey.map veilMaterial }

end Credentials

/-! ## 2. What holds secrets -/

/-- What a login offers, under the veil. -/
def Login.veil (l : Login) : Login :=
  { l with
    key := l.key.map Credentials.veilMaterial
    password := Credentials.veilPassword l.password }

/-- An attempt to connect, under the veil. -/
def Dial.veil (d : Dial) : Dial := { d with login := d.login.veil }

/-- A resource under the veil. -/
def Resource.veil (r : Resource) : Resource :=
  { r with credentials := Credentials.veilDocument r.credentials }

/-- The store under the veil. -/
def Store.veil (s : Store) : Store := { s with records := s.records.map Resource.veil }

/-- An answer under the veil. Only a resource itself holds a secret. -/
def Reply.veil : Reply → Reply
  | .resource r => .resource (r.map Resource.veil)
  | reply => reply

/-- An event under the veil. -/
def Event.veil : Event → Event
  | .connect d => .connect d.veil
  | .interlude answer => .interlude answer.veil
  | e => e

/-- An entry of the journal under the veil. -/
def Entry.veil : Entry → Entry
  | .event e => .event e.veil
  | entry => entry

/-- The state of the service under the veil. -/
def World.veil {σ : Type} (w : World σ) : World σ :=
  { w with journal := w.journal.map Entry.veil, store := w.store.veil }

/-! ## 3. Reading credentials -/

namespace Credentials

theorem exists_of_isPassword {j : Json} (h : isPassword j = true) :
    ∃ s, j = .text s ∧ s.isEmpty = false := by
  cases j with
  | text s => exact ⟨s, rfl, by simpa [isPassword, Json.text?] using h⟩
  | _ => cases h

theorem isGiven_veilPassword (j : Json) : (veilPassword j).isGiven = j.isGiven := by
  unfold veilPassword
  split
  next h =>
    obtain ⟨s, rfl, hs⟩ := exists_of_isPassword h
    simp [Json.isGiven, hs]
  · rfl

theorem exists_of_encodesKey {j : Json} (h : encodesKey j = true) :
    ∃ s key, j = .text s ∧ decodeKey j = .ok key ∧ key.isEmpty = false := by
  unfold encodesKey at h
  rcases hd : decodeKey j with p | key <;> rw [hd] at h
  · cases h
  · cases j with
    | text s => exact ⟨s, key, rfl, rfl, by simpa [Except.toOption] using h⟩
    | _ => cases hd

/-- An empty text encodes nothing. -/
theorem isGiven_of_encodesKey {j : Json} (h : encodesKey j = true) : j.isGiven = true := by
  obtain ⟨s, key, rfl, hd, hkey⟩ := exists_of_encodesKey h
  by_cases hs : s = ""
  · subst hs
    have nothing : decodeKey (.text "") = .ok [] := rfl
    rw [nothing] at hd
    cases hd
    cases hkey
  · simpa [Json.isGiven] using hs

theorem isGiven_veilKey (j : Json) : (veilKey j).isGiven = j.isGiven := by
  unfold veilKey
  split
  next h => rw [isGiven_of_encodesKey h]; decide
  · rfl

/-- The sign for a key encodes the sign for key material. -/
theorem decodeKey_veilKey (j : Json) : decodeKey (veilKey j) = (decodeKey j).map veilMaterial := by
  unfold veilKey
  split
  next h =>
    obtain ⟨s, key, rfl, hd, hkey⟩ := exists_of_encodesKey h
    have sign : decodeKey (.text "Kg==") = .ok [0x2A] := rfl
    simp [sign, hd, hkey, veilMaterial, Except.map]
  next h =>
    rcases hd : decodeKey j with p | key
    · rfl
    · have empty : key.isEmpty = true := by simpa [encodesKey, hd, Except.toOption] using h
      simp [Except.map, veilMaterial, empty]

/-- The veil put on twice is the veil. -/
theorem veilDocument_veilDocument (j : Json) :
    veilDocument (veilDocument j) = veilDocument j := by
  have password (j : Json) : veilPassword (veilPassword j) = veilPassword j := by
    by_cases h : isPassword j = true <;> simp [veilPassword, h]
  have key (j : Json) : veilKey (veilKey j) = veilKey j := by
    by_cases h : encodesKey j = true <;> simp [veilKey, h]
  have field (e : String × Json) : veilField e.1 (veilField e.1 e.2) = veilField e.1 e.2 := by
    unfold veilField
    split
    · exact password e.2
    · split
      · exact key e.2
      · rfl
  cases j with
  | object fields => simp [veilDocument, veilFields, Function.comp_def, field]
  | _ => rfl

theorem field?_veilFields (key : String) : ∀ fields : List (String × Json),
    Json.field? key (veilFields fields) = (Json.field? key fields).map (veilField key)
  | [] => rfl
  | (k, v) :: rest => by
    have ih := field?_veilFields key rest
    unfold veilFields at ih ⊢
    by_cases hk : k = key
    · simp [Json.field?, hk]
    · simpa [Json.field?, hk] using ih

theorem veilField_password : veilField "password" = veilPassword := rfl

theorem veilField_privateKey : veilField "privateKey" = veilKey := rfl

/-- Fields that hold no secret are as they were. -/
theorem field?_veilFields_of_ne {key : String} (hp : key ≠ "password") (hk : key ≠ "privateKey")
    (fields : List (String × Json)) :
    Json.field? key (veilFields fields) = Json.field? key fields := by
  have same : veilField key = id := by
    funext j
    simp [veilField, hp, hk]
  rw [field?_veilFields, same, Option.map_id, id]

theorem bind_given_map {f : Json → Json} (hf : ∀ j, (f j).isGiven = j.isGiven) (o : Option Json) :
    (o.map f).bind Json.given? = (o.bind Json.given?).map f := by
  cases o with
  | none => rfl
  | some j => by_cases h : j.isGiven = true <;> simp [Json.given?, hf, h]

theorem hasKey_map_veilMaterial (key : Option (List UInt8)) :
    ((key.map veilMaterial).map fun k => !k.isEmpty) = key.map fun k => !k.isEmpty := by
  cases key with
  | none => rfl
  | some k => cases k <;> rfl

@[simp] theorem hasKey_veil (c : Credentials) : c.veil.hasKey = c.hasKey := by
  unfold hasKey veil
  rw [hasKey_map_veilMaterial]

variable (depths : Json.Depths)

/-- Making credentials asks only whether there is a password and whether
there is a key. -/
theorem make_veil (host username port password knownHosts : Json) (key : Option (List UInt8)) :
    make host username port (veilPassword password) (key.map veilMaterial) knownHosts depths =
      (make host username port password key knownHosts depths).map veil := by
  unfold make
  dsimp only
  rw [isGiven_veilPassword]
  cases username.isGiven with
  | false => rfl
  | true =>
    rcases hostOf host depths with p | host
    · rfl
    · rcases Port.read port depths with p | port
      · rfl
      · have keyed := hasKey_veil { host, username, port, password, privateKey := key, knownHosts }
        unfold veil at keyed
        simp only [bind, Except.bind, keyed]
        cases password.isGiven <;> cases hasKey _ <;> rfl

/-- What comes of fields under the veil is what comes of the fields, under the veil. -/
theorem ofFields_veil (fields : List (String × Json)) :
    ofFields (veilFields fields) depths = (ofFields fields depths).map veil := by
  have plain (key : String) (hp : key ≠ "password") (hk : key ≠ "privateKey") :=
    field?_veilFields_of_ne hp hk fields
  have password : givenField (veilFields fields) "password" =
      veilPassword (givenField fields "password") := by
    unfold givenField
    rw [field?_veilFields, veilField_password, bind_given_map isGiven_veilPassword]
    cases (Json.field? "password" fields).bind Json.given? <;> rfl
  have key : (Json.field? "privateKey" (veilFields fields)).bind Json.given? =
      ((Json.field? "privateKey" fields).bind Json.given?).map veilKey := by
    rw [field?_veilFields, veilField_privateKey, bind_given_map isGiven_veilKey]
  have text (key : String) (hp : key ≠ "password") (hk : key ≠ "privateKey") :
      textField (veilFields fields) key depths = textField fields key depths := by
    unfold textField
    rw [plain key hp hk]
  -- Host and user name are texts or fail to be, whatever the key is.
  have made (material : Option (List UInt8)) :
      (do let host ← textField fields "hostIP" depths
          let username ← textField fields "username" depths
          make host username (fieldOrNull fields "hostPort")
            (veilPassword (givenField fields "password")) (material.map veilMaterial)
            (givenField fields "knownHosts") depths) =
        (do let host ← textField fields "hostIP" depths
            let username ← textField fields "username" depths
            make host username (fieldOrNull fields "hostPort") (givenField fields "password")
              material (givenField fields "knownHosts") depths).map veil := by
    rcases textField fields "hostIP" depths with p | host
    · rfl
    · rcases textField fields "username" depths with p | username
      · rfl
      · exact make_veil depths _ _ _ _ _ material
  unfold ofFields
  rw [key, password]
  simp only [text, fieldOrNull, givenField, plain, ne_eq, String.reduceEq, not_false_eq_true]
  cases (Json.field? "privateKey" fields).bind Json.given? with
  | none => exact made none
  | some encoded =>
    simp only [Option.map_some, decodeKey_veilKey]
    rcases decodeKey encoded with p | material
    · rfl
    · exact made (some material)

/-- Documents that differ in their secrets alone: both are mappings, or they
are the same. -/
theorem eq_or_fields_of_veil {j j' : Json} (same : veilDocument j = veilDocument j') :
    j = j' ∨ ∃ fields fields', j = .object fields ∧ j' = .object fields' ∧
      veilFields fields = veilFields fields' := by
  cases j with
  | object fields =>
    cases j' with
    | object fields' => exact .inr ⟨fields, fields', rfl, rfl, by simpa [veilDocument] using same⟩
    | _ => cases same
  | _ =>
    cases j' with
    | object fields' => cases same
    | _ => exact .inl same

/-- Reading documents that differ in their secrets alone leaves the same
records, and what comes of it differs in the secrets alone. -/
theorem ofPayload_of_veil {j j' : Json} (same : veilDocument j = veilDocument j') :
    (ofPayload (.value j) depths).1 = (ofPayload (.value j') depths).1 ∧
      (ofPayload (.value j) depths).2.map veil = (ofPayload (.value j') depths).2.map veil := by
  obtain rfl | ⟨fields, fields', rfl, rfl, alike⟩ := eq_or_fields_of_veil same
  · exact ⟨rfl, rfl⟩
  have port : fieldOrNull fields "hostPort" = fieldOrNull fields' "hostPort" := by
    unfold fieldOrNull
    rw [← field?_veilFields_of_ne (by decide) (by decide) fields, alike,
      field?_veilFields_of_ne (by decide) (by decide) fields']
  constructor
  · show (if Port.isUnset (fieldOrNull fields "hostPort") then _ else _) = ite _ _ _
    rw [port]
  · show (ofFields fields depths).map veil = (ofFields fields' depths).map veil
    rw [← ofFields_veil, alike, ofFields_veil]

/-- Credentials as they are shown once they were read, or why they cannot be
read. -/
def shown (j : Json) : Except Problem String := (ofPayload (.value j) depths).2.map display

/-- What is shown of credentials says nothing about their secrets. -/
theorem shown_of_veil {j j' : Json} (same : veilDocument j = veilDocument j') :
    shown depths j = shown depths j' := by
  have veiled (o : Except Problem Credentials) : o.map display = (o.map veil).map display := by
    cases o <;> rfl
  unfold shown
  rw [veiled, (ofPayload_of_veil depths same).2, ← veiled]

end Credentials

/-! ## 4. What differs in its secrets alone -/

theorem Credentials.exists_of_veil {c c' : Credentials} (same : c.veil = c'.veil) :
    ∃ password key, c' = { c with password, privateKey := key } ∧
      veilPassword c.password = veilPassword password ∧
      c.privateKey.map veilMaterial = key.map veilMaterial := by
  obtain ⟨host, username, port, password, key, knownHosts⟩ := c
  obtain ⟨host', username', port', password', key', knownHosts'⟩ := c'
  simp only [veil, Credentials.mk.injEq] at same
  obtain ⟨rfl, rfl, rfl, passwords, keys, rfl⟩ := same
  exact ⟨password', key', rfl, passwords, keys⟩

theorem Credentials.hasKey_of_veil {c c' : Credentials} (same : c.veil = c'.veil) :
    c.hasKey = c'.hasKey := by rw [← c.hasKey_veil, same, c'.hasKey_veil]

/-- What is told of credentials says nothing about their secrets. -/
theorem Credentials.told_of_veil {c c' : Credentials} (same : c.veil = c'.veil) :
    c.username = c'.username ∧ c.address = c'.address ∧ c.method = c'.method := by
  have keyed := hasKey_of_veil same
  obtain ⟨password, key, rfl, -, -⟩ := exists_of_veil same
  exact ⟨rfl, rfl, by rw [method, keyed, ← method]⟩

theorem Resource.exists_of_veil {r r' : Resource} (same : r.veil = r'.veil) :
    ∃ credentials, r' = { r with credentials } ∧
      Credentials.veilDocument r.credentials = Credentials.veilDocument credentials := by
  obtain ⟨name, credentials, bundle, observation, deleting, attempted, action, error, time⟩ := r
  obtain ⟨name', credentials', bundle', observation', deleting', attempted', action', error',
    time'⟩ := r'
  simp only [veil, Resource.mk.injEq] at same
  obtain ⟨rfl, alike, rfl, rfl, rfl, rfl, rfl, rfl, rfl⟩ := same
  exact ⟨credentials', rfl, alike⟩

theorem World.exists_of_veil {σ : Type} {w w' : World σ} (same : w.veil = w'.veil) :
    ∃ journal records, w' = { w with journal, store := { w.store with records } } := by
  obtain ⟨host, journal, ⟨records, current, locks, next, held⟩, boundary, polling, tokens,
    readings⟩ := w
  obtain ⟨host', journal', ⟨records', current', locks', next', held'⟩, boundary', polling',
    tokens', readings'⟩ := w'
  simp only [veil, Store.veil, World.mk.injEq, Store.mk.injEq] at same
  obtain ⟨rfl, -, ⟨-, rfl, rfl, rfl, rfl⟩, rfl, rfl, rfl, rfl⟩ := same
  exact ⟨journal', records', rfl⟩

theorem World.veil_note {σ : Type} (w : World σ) (e : Entry) :
    (w.note e).veil = w.veil.note e.veil := by
  simp only [note, veil, List.map_append, List.map_cons, List.map_nil]

/-- Looking at the store through the veil. -/
theorem Store.record_veil (s : Store) (k : Nat) : s.veil.record k = (s.record k).veil := by
  simp only [record, veil, List.getElem?_map]
  cases s.records[k]? <;> rfl

theorem Store.get?_veil (s : Store) (name : String) :
    s.veil.get? name = (s.get? name).map Resource.veil := by
  show (s.find? name).map s.veil.record = _
  cases h : s.find? name <;> simp [get?, h, record_veil]

/-- What two stores have under a name differs in its secrets alone. -/
theorem Store.get?_of_veil {s s' : Store} (same : s.veil = s'.veil) (name : String) :
    (s.get? name).map Resource.veil = (s'.get? name).map Resource.veil := by
  rw [← s.get?_veil, same, s'.get?_veil]

/-- What does not look at credentials. -/
theorem Store.map_get?_of_veil {α : Type} {f : Resource → α} (blind : ∀ r, f r.veil = f r)
    {s s' : Store} (same : s.veil = s'.veil) (name : String) :
    (s.get? name).map f = (s'.get? name).map f := by
  have veiled (o : Option Resource) : o.map f = (o.map Resource.veil).map f := by
    cases o <;> simp [blind]
  rw [veiled, get?_of_veil same, ← veiled]

/-- Changing a record under the veil. -/
theorem Store.veil_edit (s : Store) (k : Nat) {f g : Resource → Resource}
    (h : ∀ r, (f r).veil = g r.veil) : (s.edit k f).veil = s.veil.edit k g := by
  have records : (s.records.modify k f).map Resource.veil =
      (s.records.map Resource.veil).modify k g := by
    refine List.ext_getElem? fun i => ?_
    rw [List.getElem?_map, List.getElem?_modify, List.getElem?_modify, List.getElem?_map]
    cases s.records[i]? with
    | none => rfl
    | some r => by_cases at_k : k = i <;> simp [at_k, h]
  simp only [edit, veil, records]

theorem Journal.logs_veil (j : Journal) : Journal.logs (j.map Entry.veil) = j.logs := by
  have same : Entry.log? ∘ Entry.veil = Entry.log? := by
    funext e
    cases e <;> rfl
  unfold logs
  rw [List.filterMap_map, same]

theorem Journal.events_veil (j : Journal) :
    Journal.events (j.map Entry.veil) = j.events.map Event.veil := by
  have same : Entry.event? ∘ Entry.veil = fun e => e.event?.map Event.veil := by
    funext e
    cases e <;> rfl
  unfold events
  rw [List.filterMap_map, List.map_filterMap, same]

end Upkeep
