/-
Upkeep.Proofs.KeyMaterial — keys arrive as they were sent.

Key material travels in base64, and whoever sends it may break the lines of
the text or put blanks anywhere else. `Base64.encode` writes octets in the
alphabet of 64 signs, the last group filled up; `Spread p s t` says that `t`
is `s` with characters of a class put in between.

Main statement: `ofPayload_key` — the key of a payload that is in order but for
its key is the octets of which the text is the base64 form with blanks put
in; and a text with any character that is no blank, no sign of the alphabet
and no filler is refused.
-/
import Upkeep.Proofs.Decoding

namespace Upkeep

/-! ## 1. Writing base64 -/

namespace Encoding.Base64

/-- The signs of the alphabet, each at the place that it is worth. -/
def alphabet : List Char :=
  "ABCDEFGHIJKLMNOPQRSTUVWXYZabcdefghijklmnopqrstuvwxyz0123456789+/".toList

/-- The sign that is worth a number below 64. -/
def sign (n : Nat) : Char := alphabet.getD n pad

/-- Octets in base64. Three octets make four signs; one or two octets that
are left over make two or three, filled up to four. -/
def encode : List UInt8 → List Char
  | a :: b :: c :: rest =>
    sign (a.toNat / 4) :: sign (a.toNat % 4 * 16 + b.toNat / 16) ::
      sign (b.toNat % 16 * 4 + c.toNat / 64) :: sign (c.toNat % 64) :: encode rest
  | [a, b] =>
    [sign (a.toNat / 4), sign (a.toNat % 4 * 16 + b.toNat / 16), sign (b.toNat % 16 * 4), pad]
  | [a] => [sign (a.toNat / 4), sign (a.toNat % 4 * 16), pad, pad]
  | [] => []

set_option maxRecDepth 2000 in
theorem value?_sign : ∀ n < 64, value? (sign n) = some n := by decide

theorem value?_pad : value? pad = none := by decide

theorem sign_ne_pad (n : Nat) (h : n < 64) : sign n ≠ pad := by
  intro same
  have := value?_sign n h
  rw [same, value?_pad] at this
  cases this

theorem lt_of_value? {c : Char} {n : Nat} (h : value? c = some n) : c.toNat < 128 := by
  unfold value? at h
  dsimp only at h
  split at h
  · omega
  · split at h
    · omega
    · split at h
      · omega
      · split at h
        · rename_i same
          exact same ▸ by decide
        · split at h
          · rename_i same
            exact same ▸ by decide
          · cases h

set_option maxRecDepth 4000 in
theorem mem_alphabet_of_ascii :
    ∀ n < 128, value? (Char.ofNat n) ≠ none → Char.ofNat n ∈ alphabet := by decide

/-- What is worth something is in the alphabet. -/
theorem mem_alphabet {c : Char} {n : Nat} (h : value? c = some n) : c ∈ alphabet := by
  have listed := mem_alphabet_of_ascii c.toNat (lt_of_value? h)
  rw [Char.ofNat_toNat] at listed
  exact listed (by rw [h]; nofun)

/-! The octets of a group are put together as they were taken apart. -/

theorem octet1_encode (a b : UInt8) :
    octet1 (a.toNat / 4) (a.toNat % 4 * 16 + b.toNat / 16) = a := by
  have := b.toNat_lt
  have same : a.toNat / 4 * 4 + (a.toNat % 4 * 16 + b.toNat / 16) / 16 = a.toNat := by omega
  rw [octet1, same, UInt8.ofNat_toNat]

theorem octet2_encode (a b c : UInt8) :
    octet2 (a.toNat % 4 * 16 + b.toNat / 16) (b.toNat % 16 * 4 + c.toNat / 64) = b := by
  have := b.toNat_lt
  have := c.toNat_lt
  have same : (a.toNat % 4 * 16 + b.toNat / 16) % 16 * 16 +
      (b.toNat % 16 * 4 + c.toNat / 64) / 4 = b.toNat := by omega
  rw [octet2, same, UInt8.ofNat_toNat]

theorem octet3_encode (b c : UInt8) :
    octet3 (b.toNat % 16 * 4 + c.toNat / 64) (c.toNat % 64) = c := by
  have := c.toNat_lt
  have same : (b.toNat % 16 * 4 + c.toNat / 64) % 4 * 64 + c.toNat % 64 = c.toNat := by omega
  rw [octet3, same, UInt8.ofNat_toNat]

theorem decodeGroups_encode (k : List UInt8) : decodeGroups (encode k) = some k := by
  fun_induction encode k with
  | case1 a b c rest ih =>
    have := a.toNat_lt
    have := b.toNat_lt
    have := c.toNat_lt
    rw [decodeGroups, value?_sign _ (by omega), value?_sign _ (by omega), value?_sign _ (by omega),
      value?_sign _ (by omega)]
    dsimp only
    rw [ih, octet1_encode, octet2_encode, octet3_encode]
    rfl
  | case2 a b =>
    have := a.toNat_lt
    have := b.toNat_lt
    rw [decodeGroups, value?_sign _ (by omega), value?_sign _ (by omega), value?_sign _ (by omega),
      value?_pad]
    dsimp only
    rw [if_pos ⟨rfl, rfl⟩, octet1_encode]
    exact congrArg (fun o => some [a, o]) (octet2_encode a b 0)
  | case3 a =>
    have := a.toNat_lt
    rw [decodeGroups, value?_sign _ (by omega), value?_sign _ (by omega), value?_pad]
    dsimp only
    rw [if_pos ⟨rfl, rfl, rfl⟩]
    exact congrArg (fun o => some [o]) (octet1_encode a 0)
  | case4 => rfl

/-- Reading undoes writing. -/
theorem decode_encode (k : List UInt8) : decode (encode k) = some k := by
  have start : (encode k).head? ≠ some pad := by
    fun_cases encode k with
    | case1 a | case2 a | case3 a =>
      have := a.toNat_lt
      exact fun same => sign_ne_pad _ (by omega) (Option.some.inj same)
    | case4 => nofun
  rw [decode, if_neg start, decodeGroups_encode]

/-- Four octets make two groups. -/
example : encode [0x66, 0x6F, 0x6F, 0x62] = "Zm9vYg==".toList := by decide

theorem encode_ne_nil {k : List UInt8} (nonempty : k ≠ []) : encode k ≠ [] := by
  intro same
  have decoded := decode_encode k
  rw [same] at decoded
  exact nonempty (Option.some.inj decoded).symm

/-! ## 2. What is read is written in signs and fillers -/

/-- A sign of the alphabet or a filler. -/
def Listed (c : Char) : Prop := c ∈ alphabet ∨ c = pad

theorem listed_of_decodeEnd {s : List Char} {k : List UInt8} (h : decodeEnd s = some k) :
    ∀ c ∈ s, Listed c := by
  unfold decodeEnd at h
  split at h
  · rename_i pads
    intro c hc
    exact Or.inr (eq_of_beq (List.all_eq_true.mp pads c hc))
  · cases h

theorem listed_of_decodeGroups {s : List Char} {k : List UInt8} (h : decodeGroups s = some k) :
    ∀ c ∈ s, Listed c := by
  fun_induction decodeGroups s generalizing k with
  | case1 a b c d rest w x y z hz hy hx hw ih =>
    obtain ⟨ks, more, -⟩ := Option.map_eq_some_iff.mp h
    simp only [List.forall_mem_cons]
    exact ⟨Or.inl (mem_alphabet hw), Or.inl (mem_alphabet hx), Or.inl (mem_alphabet hy),
      Or.inl (mem_alphabet hz), ih more⟩
  | case2 a b c d rest w x y hz hy hx hw padded =>
    obtain ⟨rfl, rfl⟩ := padded
    simp only [List.forall_mem_cons]
    exact ⟨Or.inl (mem_alphabet hw), Or.inl (mem_alphabet hx), Or.inl (mem_alphabet hy),
      Or.inr rfl, by simp⟩
  | case3 => cases h
  | case4 a b c d rest w x hz hy hx hw padded =>
    obtain ⟨rfl, rfl, rfl⟩ := padded
    simp only [List.forall_mem_cons]
    exact ⟨Or.inl (mem_alphabet hw), Or.inl (mem_alphabet hx), Or.inr rfl, Or.inr rfl, by simp⟩
  | case5 => cases h
  | case6 => exact listed_of_decodeEnd h
  | case7 => exact listed_of_decodeEnd h

theorem listed_of_decode {s : List Char} {k : List UInt8} (h : decode s = some k) :
    ∀ c ∈ s, Listed c := by
  unfold decode at h
  split at h
  · cases h
  · exact listed_of_decodeGroups h

end Encoding.Base64

/-! ## 3. Blanks put in -/

/-- The second text is the first with characters of a class put in, as many
as there are and wherever they are. -/
inductive Text.Spread (p : Char → Bool) : List Char → List Char → Prop
  | nil : Spread p [] []
  | keep {c : Char} {s t : List Char} : Spread p s t → Spread p (c :: s) (c :: t)
  | put {c : Char} {s t : List Char} : p c = true → Spread p s t → Spread p s (c :: t)

/-- If the first text has none of them, it is what is left without them. -/
theorem Text.Spread.filter {p : Char → Bool} {s t : List Char} (h : Text.Spread p s t)
    (without : ∀ c ∈ s, p c = false) : (t.filter fun c => !p c) = s := by
  induction h with
  | nil => rfl
  | keep _ ih =>
    obtain ⟨kept, rest⟩ := List.forall_mem_cons.mp without
    rw [List.filter_cons_of_pos (by simp [kept]), ih rest]
  | put dropped _ ih => rw [List.filter_cons_of_neg (by simp [dropped]), ih without]

/-- What is put in leaves something where there was something. -/
theorem Text.Spread.ne_nil {p : Char → Bool} {s t : List Char} (h : Text.Spread p s t)
    (nonempty : s ≠ []) : t ≠ [] := by
  cases h with
  | nil => exact nonempty
  | keep => exact List.cons_ne_nil _ _
  | put => exact List.cons_ne_nil _ _

namespace Credentials

open Encoding (Base64.encode Base64.decode Base64.Listed)

/-- No sign of base64 is blank. -/
theorem isBlank_of_listed {c : Char} (h : Base64.Listed c) : Text.isBlank c = false := by
  have signs : Encoding.Base64.alphabet.all (fun c => !Text.isBlank c) = true := by decide
  rcases h with listed | rfl
  · simpa using List.all_eq_true.mp signs c listed
  · rfl

/-! ## 4. Keys -/

/-- Octets are read back from their base64 form with blanks put in. -/
theorem decodeKey_of_spread {k : List UInt8} {text : String}
    (h : Text.Spread Text.isBlank (Base64.encode k) text.toList) :
    decodeKey (.text text) = .ok k := by
  have decoded := Encoding.Base64.decode_encode k
  have kept := h.filter fun c hc =>
    isBlank_of_listed (Encoding.Base64.listed_of_decode decoded c hc)
  dsimp only [decodeKey]
  rw [kept, decoded]

/-- A text with a character that base64 does not know is refused. -/
theorem decodeKey_of_foreign {text : String} {c : Char} (hc : c ∈ text.toList)
    (solid : Text.isBlank c = false) (foreign : ¬ Base64.Listed c) :
    ∃ cause, decodeKey (.text text) = .error (.misconfigured .undecodableKey (some cause)) := by
  have undecoded : Base64.decode (text.toList.filter fun c => !Text.isBlank c) = none := by
    cases decoded : Base64.decode (text.toList.filter fun c => !Text.isBlank c) with
    | none => rfl
    | some k =>
      have kept : c ∈ text.toList.filter fun c => !Text.isBlank c :=
        List.mem_filter.mpr ⟨hc, by simp [solid]⟩
      exact absurd (Encoding.Base64.listed_of_decode decoded c kept) foreign
  dsimp only [decodeKey]
  rw [undecoded]
  exact ⟨_, rfl⟩

/-! ## 5. Payloads -/

/-- The fields are in order but for the key: with something else in its place
they are accepted, and there is no password. -/
def AwaitsKey (depths : Json.Depths) (fields : List (String × Json)) (c : Credentials) : Prop :=
  c.password.isGiven = false ∧
    ∃ other, ofFields (Json.setField "privateKey" other fields) depths = .ok c

variable {depths : Json.Depths}

/-- Nothing but the key is read from the field of the key. -/
theorem fields_setKey (other : Json) (fields : List (String × Json)) :
    let changed := Json.setField "privateKey" other fields
    textField changed "hostIP" depths = textField fields "hostIP" depths ∧
      textField changed "username" depths = textField fields "username" depths ∧
      fieldOrNull changed "hostPort" = fieldOrNull fields "hostPort" ∧
      givenField changed "password" = givenField fields "password" ∧
      givenField changed "knownHosts" = givenField fields "knownHosts" := by
  have kept {key : String} (h : key ≠ "privateKey") := Json.field?_setField_of_ne h other fields
  simp only [textField, fieldOrNull, givenField]
  rw [kept (by decide), kept (by decide), kept (by decide), kept (by decide), kept (by decide)]
  exact ⟨rfl, rfl, rfl, rfl, rfl⟩

/-- Credentials without a password are made with any other key just as well. -/
theorem make_withKey {host username port password knownHosts : Json} {key : Option (List UInt8)}
    {c : Credentials} {k : List UInt8}
    (h : make host username port password key knownHosts depths = .ok c)
    (without : c.password.isGiven = false) (nonempty : k ≠ []) :
    make host username port password (some k) knownHosts depths =
      .ok { c with privateKey := some k } := by
  obtain ⟨hosted, rfl, read, rfl, rfl, rfl⟩ := make_eq_ok h
  have given : c.username.isGiven = true := by
    by_contra absent
    rw [make, Bool.eq_false_iff.mpr absent] at h
    cases h
  rw [make_eq _ _ _ _ _ _ given, hosted, read]
  refine if_pos ?_
  simp [without, hasKey, nonempty]

/-- With another key everything else stays as it was. -/
theorem ofFields_of_awaitsKey {fields : List (String × Json)} {c : Credentials} {k : List UInt8}
    (h : AwaitsKey depths fields c) (key : keyOf fields = .ok (some k)) (nonempty : k ≠ []) :
    ofFields fields depths = .ok { c with privateKey := some k } := by
  obtain ⟨without, other, accepted⟩ := h
  obtain ⟨sameHost, sameUser, samePort, samePassword, sameHosts⟩ := fields_setKey other fields
  rw [ofFields_eq] at accepted
  obtain ⟨key', -, accepted⟩ := Json.exists_of_bind_eq_ok accepted
  obtain ⟨host, named, accepted⟩ := Json.exists_of_bind_eq_ok accepted
  obtain ⟨username, titled, accepted⟩ := Json.exists_of_bind_eq_ok accepted
  rw [sameHost] at named
  rw [sameUser] at titled
  rw [samePort, samePassword, sameHosts] at accepted
  rw [ofFields_eq, key]
  show (textField fields "hostIP" depths >>= _) = _
  rw [named]
  show (textField fields "username" depths >>= _) = _
  rw [titled]
  exact make_withKey accepted without nonempty

/-- The key of a payload that is in order but for its key, and in which the
field of the key is a text. If the text is the base64 form of some octets
with blanks put in, the payload is accepted with these octets as the key. If
any character of the text is no blank, no sign of base64 and no filler, the
payload is refused as a misconfiguration, whatever else it says. -/
theorem ofPayload_key (depths : Json.Depths) {payload : Payload}
    {fields : List (String × Json)} {text : String}
    (written : fieldsOf payload depths = .ok fields)
    (given : Json.field? "privateKey" fields = some (.text text)) :
    (∀ k c, k ≠ [] → Text.Spread Text.isBlank (Base64.encode k) text.toList →
      AwaitsKey depths fields c →
        (ofPayload payload depths).2 = .ok { c with privateKey := some k }) ∧
    ∀ c ∈ text.toList, Text.isBlank c = false → ¬ Base64.Listed c →
      ∃ p, (ofPayload payload depths).2 = .error p ∧ p.Refuses := by
  have decoding (nonempty : text.toList ≠ []) : keyOf fields = some <$> decodeKey (.text text) := by
    have present : (Json.text text).isGiven = true := by simpa [Json.isGiven] using nonempty
    rw [keyOf, bind_given_eq_some.mpr ⟨given, present⟩]
  rw [ofPayload_eq, written]
  refine ⟨fun k c nonempty spread awaits => ?_, fun c hc solid foreign => ?_⟩
  · have key : keyOf fields = .ok (some k) := by
      rw [decoding (spread.ne_nil (Encoding.Base64.encode_ne_nil nonempty)),
        decodeKey_of_spread spread]
      rfl
    exact ofFields_of_awaitsKey awaits key nonempty
  · obtain ⟨cause, refused⟩ := decodeKey_of_foreign hc solid foreign
    refine ⟨_, ?_, .undecodableKey, some cause, rfl⟩
    show ofFields fields depths = _
    rw [ofFields_eq, decoding (List.ne_nil_of_mem hc), refused]
    rfl

/-- A key of one octet with blanks around its base64 form and between its
fillers, and one with a sign that base64 does not know. -/
theorem ofPayload_key_blanks :
    let fields (key : String) := [("hostIP", Json.text "10.0.0.5"), ("username", .text "deploy"),
      ("hostPort", .text "2222"), ("privateKey", .text key)]
    let c : Credentials :=
      { host := "10.0.0.5", username := .text "deploy", port := 2222, privateKey := some [0] }
    AwaitsKey .usual (fields " Kg=\n\t= ") c ∧
      (ofPayload (.value (.object (fields " Kg=\n\t= "))) .usual).2 =
        .ok { c with privateKey := some [0x2A] } ∧
      ∃ p, (ofPayload (.value (.object (fields "K!g=="))) .usual).2 = .error p ∧ p.Refuses := by
  intro fields c
  have awaits : AwaitsKey .usual (fields " Kg=\n\t= ") c := ⟨rfl, .text "AA==", rfl⟩
  have spread : Text.Spread Text.isBlank (Base64.encode [0x2A]) " Kg=\n\t= ".toList :=
    .put rfl (.keep (.keep (.keep (.put rfl (.put rfl (.keep (.put rfl .nil)))))))
  have foreign : ¬ Base64.Listed '!' := by
    rintro (sign | filler)
    · exact absurd sign (by decide)
    · exact absurd filler (by decide)
  have written (key : String) : fieldsOf (.value (.object (fields key))) .usual =
      .ok (fields key) := rfl
  obtain ⟨accepted, -⟩ := ofPayload_key .usual (written " Kg=\n\t= ") rfl
  obtain ⟨-, refused⟩ := ofPayload_key .usual (written "K!g==") rfl
  exact ⟨awaits, accepted [0x2A] c (by decide) spread awaits, refused '!' (by decide) rfl foreign⟩

end Credentials

end Upkeep
