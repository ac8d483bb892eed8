/-
Upkeep.Proofs.Utf8 — which text octets are read as.

`Reads` says what text octets stand for, without a table of leading octets:
where the encoding of a character stands, that character is read; where none
stands, the octets up to the first one that no encoding could go on with are
read as one replacement character (`Malformed`).

Main statement: `reads_iff` — the lossy reader reads this text and no other.

The way there is what the table says: a leading octet and the octets behind
it encode a character exactly if they are as in the table (`Encodes.eq`,
`encodes_of_eq`).
-/
import Upkeep.Encoding.Utf8

namespace Upkeep.Encoding.Utf8

/-! ## 1. What octets stand for -/

/-- The encoding of some character begins with the octets. -/
def Begins (octets : List UInt8) : Prop := ∃ c : Char, octets <+: String.utf8EncodeChar c

/-- No encoding stands at the head of the octets, and the bad ones are those
that an encoding could begin with, up to the first that cannot go on with
it; one octet is bad in any case. -/
structure Malformed (bad rest : List UInt8) : Prop where
  noChar : ∀ c : Char, ¬ String.utf8EncodeChar c <+: bad ++ rest
  start : bad.length = 1 ∨ 1 < bad.length ∧ Begins bad
  longest : ∀ b ∈ rest.head?, ¬ Begins (bad ++ [b])

/-- The text that octets stand for. -/
inductive Reads : List UInt8 → List Char → Prop
  | done : Reads [] []
  | char (c : Char) {rest : List UInt8} {text : List Char} : Reads rest text →
      Reads (String.utf8EncodeChar c ++ rest) (c :: text)
  | replaced {bad rest : List UInt8} {text : List Char} : Malformed bad rest → Reads rest text →
      Reads (bad ++ rest) (replacement :: text)

/-! ## 2. The table -/

/-- Octets behind a leading one: the first lies between the bounds, the others
between `80` and `BF`. -/
def Trail : (low high : Nat) → List UInt8 → Prop
  | _, _, [] => True
  | low, high, b :: rest => (low ≤ b.toNat ∧ b.toNat ≤ high) ∧ Trail 0x80 0xBF rest

/-- The code point that octets add up to, from the payload of the leading
one. -/
def codeFrom (code : Nat) (trail : List UInt8) : Nat :=
  trail.foldl (fun code b => code * 64 + (b.toNat - 0x80)) code

theorem codeFrom_cons (code : Nat) (b : UInt8) (trail : List UInt8) :
    codeFrom code (b :: trail) = codeFrom (code * 64 + (b.toNat - 0x80)) trail :=
  List.foldl_cons ..

/-- What the table says, by the number of octets that follow. -/
theorem leads_cases {b code missing low high : Nat}
    (h : leads b = some (code, missing, low, high)) :
    (missing = 1 ∧ 0xC2 ≤ b ∧ b ≤ 0xDF ∧ code = b - 0xC0 ∧ low = 0x80 ∧ high = 0xBF) ∨
    (missing = 2 ∧ 0xE0 ≤ b ∧ b ≤ 0xEF ∧ code = b - 0xE0 ∧
      (b = 0xE0 ∧ low = 0xA0 ∨ b ≠ 0xE0 ∧ low = 0x80) ∧
      (b = 0xED ∧ high = 0x9F ∨ b ≠ 0xED ∧ high = 0xBF)) ∨
    (missing = 3 ∧ 0xF0 ≤ b ∧ b ≤ 0xF4 ∧ code = b - 0xF0 ∧
      (b = 0xF0 ∧ low = 0x90 ∨ b ≠ 0xF0 ∧ low = 0x80) ∧
      (b = 0xF4 ∧ high = 0x8F ∨ b ≠ 0xF4 ∧ high = 0xBF)) := by
  unfold leads at h
  repeat' split at h
  all_goals simp only [Option.some.injEq, Prod.mk.injEq, reduceCtorEq] at h
  all_goals omega

theorem leads_two {b : Nat} (h : 0xC2 ≤ b ∧ b ≤ 0xDF) :
    leads b = some (b - 0xC0, 1, 0x80, 0xBF) := by
  unfold leads
  rw [if_pos h]

theorem leads_three {b : Nat} (h : 0xE0 ≤ b ∧ b ≤ 0xEF) :
    leads b = some (b - 0xE0, 2, if b = 0xE0 then 0xA0 else 0x80,
      if b = 0xED then 0x9F else 0xBF) := by
  unfold leads
  grind

theorem leads_four {b : Nat} (h : 0xF0 ≤ b ∧ b ≤ 0xF4) :
    leads b = some (b - 0xF0, 3, if b = 0xF0 then 0x90 else 0x80,
      if b = 0xF4 then 0x8F else 0xBF) := by
  unfold leads
  grind

/-- The octets are a leading one and those behind it, and encode a
character. -/
def Encodes (b : UInt8) (trail : List UInt8) (c : Char) : Prop :=
  (b.toNat < 0x80 ∧ trail = [] ∧ c = Char.ofNat b.toNat) ∨
  ∃ code missing low high, leads b.toNat = some (code, missing, low, high) ∧
    trail.length = missing ∧ Trail low high trail ∧ c = Char.ofNat (codeFrom code trail)

theorem isValidChar_toNat (c : Char) :
    c.toNat < 0xD800 ∨ 0xDFFF < c.toNat ∧ c.toNat < 0x110000 :=
  c.valid

theorem toNat_ofNat_of_valid {n : Nat} (h : n < 0xD800 ∨ 0xDFFF < n ∧ n < 0x110000) :
    (Char.ofNat n).toNat = n := by
  rw [Char.ofNat, dif_pos h]
  rfl

/-- An octet of an encoding is the octet of its number. -/
theorem ofNat_eq_of_toNat {n : Nat} {b : UInt8} (h : n = b.toNat) : UInt8.ofNat n = b := by
  rw [h, UInt8.ofNat_toNat]

theorem toNat_ofNat_of_lt {n : Nat} (h : n < 256) : (UInt8.ofNat n).toNat = n := by
  rw [UInt8.toNat_ofNat']
  omega

/-- What the table says encodes the character that the octets add up to. -/
theorem Encodes.eq {b : UInt8} {trail : List UInt8} {c : Char} (h : Encodes b trail c) :
    String.utf8EncodeChar c = b :: trail := by
  obtain ⟨small, rfl, rfl⟩ | ⟨code, missing, low, high, lead, long, fits, rfl⟩ := h
  · have code : (Char.ofNat b.toNat).val.toNat = b.toNat := toNat_ofNat_of_valid (by omega)
    unfold String.utf8EncodeChar
    simp only [code]
    rw [if_pos (by omega), UInt8.ofNat_toNat]
  · have cases := leads_cases lead
    match trail, long, fits with
    | [], long, _ => simp at long; omega
    | [x], long, ⟨hx, _⟩ =>
      simp only [List.length_singleton] at long
      have value : codeFrom code [x] = code * 64 + (x.toNat - 0x80) := rfl
      have code : (Char.ofNat (codeFrom code [x])).val.toNat = codeFrom code [x] :=
        toNat_ofNat_of_valid (by omega)
      unfold String.utf8EncodeChar
      simp only [code]
      rw [if_neg (by omega), if_pos (by omega), ofNat_eq_of_toNat (b := b) (by omega),
        ofNat_eq_of_toNat (b := x) (by omega)]
    | [x, y], long, ⟨hx, hy, _⟩ =>
      simp only [List.length_cons, List.length_nil] at long
      have value : codeFrom code [x, y] =
        (code * 64 + (x.toNat - 0x80)) * 64 + (y.toNat - 0x80) := rfl
      have code : (Char.ofNat (codeFrom code [x, y])).val.toNat = codeFrom code [x, y] :=
        toNat_ofNat_of_valid (by omega)
      unfold String.utf8EncodeChar
      simp only [code]
      rw [if_neg (by omega), if_neg (by omega), if_pos (by omega),
        ofNat_eq_of_toNat (b := b) (by omega), ofNat_eq_of_toNat (b := x) (by omega),
        ofNat_eq_of_toNat (b := y) (by omega)]
    | [x, y, z], long, ⟨hx, hy, hz, _⟩ =>
      simp only [List.length_cons, List.length_nil] at long
      have value : codeFrom code [x, y, z] = ((code * 64 + (x.toNat - 0x80)) * 64 +
        (y.toNat - 0x80)) * 64 + (z.toNat - 0x80) := rfl
      have code : (Char.ofNat (codeFrom code [x, y, z])).val.toNat = codeFrom code [x, y, z] :=
        toNat_ofNat_of_valid (by omega)
      unfold String.utf8EncodeChar
      simp only [code]
      rw [if_neg (by omega), if_neg (by omega), if_neg (by omega),
        ofNat_eq_of_toNat (b := b) (by omega), ofNat_eq_of_toNat (b := x) (by omega),
        ofNat_eq_of_toNat (b := y) (by omega), ofNat_eq_of_toNat (b := z) (by omega)]
    | _ :: _ :: _ :: _ :: _, long, _ => simp at long; omega

/-- Every encoding is one that the table knows. -/
theorem encodes_of_eq {b : UInt8} {trail : List UInt8} {c : Char}
    (h : String.utf8EncodeChar c = b :: trail) : Encodes b trail c := by
  have valid := isValidChar_toNat c
  have whole : c = Char.ofNat c.toNat := (Char.ofNat_toNat c).symm
  unfold String.utf8EncodeChar at h
  simp only [show c.val.toNat = c.toNat from rfl] at h
  split at h
  · cases h
    left
    rw [toNat_ofNat_of_lt (by omega)]
    exact ⟨by omega, rfl, whole⟩
  · right
    split at h
    · cases h
      have first := toNat_ofNat_of_lt (n := c.toNat / 64 % 32 + 192) (by omega)
      have second := toNat_ofNat_of_lt (n := c.toNat % 64 + 128) (by omega)
      refine ⟨_, _, _, _, leads_two (by omega), rfl, ⟨by omega, trivial⟩,
        whole.trans (congrArg Char.ofNat ?_)⟩
      simp only [codeFrom, List.foldl_cons, List.foldl_nil, first, second]
      omega
    · split at h
      · cases h
        have first := toNat_ofNat_of_lt (n := c.toNat / 4096 % 16 + 224) (by omega)
        have second := toNat_ofNat_of_lt (n := c.toNat / 64 % 64 + 128) (by omega)
        have third := toNat_ofNat_of_lt (n := c.toNat % 64 + 128) (by omega)
        refine ⟨_, _, _, _, leads_three (by omega), rfl, ⟨?_, by omega, trivial⟩,
          whole.trans (congrArg Char.ofNat ?_)⟩
        · rw [first, second]
          constructor <;> split <;> omega
        · simp only [codeFrom, List.foldl_cons, List.foldl_nil, first, second, third]
          omega
      · cases h
        have first := toNat_ofNat_of_lt (n := c.toNat / 262144 % 8 + 240) (by omega)
        have second := toNat_ofNat_of_lt (n := c.toNat / 4096 % 64 + 128) (by omega)
        have third := toNat_ofNat_of_lt (n := c.toNat / 64 % 64 + 128) (by omega)
        have fourth := toNat_ofNat_of_lt (n := c.toNat % 64 + 128) (by omega)
        refine ⟨_, _, _, _, leads_four (by omega), rfl, ⟨?_, by omega, by omega, trivial⟩,
          whole.trans (congrArg Char.ofNat ?_)⟩
        · rw [first, second]
          constructor <;> split <;> omega
        · simp only [codeFrom, List.foldl_cons, List.foldl_nil, first, second, third, fourth]
          omega

/-- An encoding has a leading octet. -/
theorem exists_encodes (c : Char) : ∃ b trail, String.utf8EncodeChar c = b :: trail := by
  cases h : String.utf8EncodeChar c with
  | nil => exact absurd h String.utf8EncodeChar_ne_nil
  | cons b trail => exact ⟨b, trail, rfl⟩

/-! ## 3. Beginnings of encodings -/

theorem Trail.of_append {low high : Nat} {a s : List UInt8} (h : Trail low high (a ++ s)) :
    Trail low high a := by
  induction a generalizing low high with
  | nil => trivial
  | cons b a ih => exact ⟨h.1, ih h.2⟩

/-- A trail can always be gone on with. -/
theorem Trail.extend {low high : Nat} {a : List UInt8} (h : Trail low high a) (bounds : low ≤ high)
    (small : high < 256) (n : Nat) : ∃ s, s.length = n ∧ Trail low high (a ++ s) := by
  induction a generalizing low high with
  | cons b a ih =>
    obtain ⟨s, long, fits⟩ := ih h.2 (by omega) (by omega)
    exact ⟨s, long, h.1, fits⟩
  | nil =>
    induction n generalizing low high with
    | zero => exact ⟨[], rfl, trivial⟩
    | succ n ih =>
      obtain ⟨s, long, fits⟩ := @ih 0x80 0xBF trivial (by omega) (by omega)
      have first := toNat_ofNat_of_lt (n := low) (by omega)
      exact ⟨UInt8.ofNat low :: s, by simp [long], by omega, fits⟩

/-- Some encoding begins with a leading octet and a trail that is not too
long, and with nothing else. -/
theorem begins_cons_iff {b : UInt8} {a : List UInt8} : Begins (b :: a) ↔
    (b.toNat < 0x80 ∧ a = []) ∨
    ∃ code missing low high, leads b.toNat = some (code, missing, low, high) ∧
      a.length ≤ missing ∧ Trail low high a := by
  constructor
  · rintro ⟨c, s, hs⟩
    have whole : String.utf8EncodeChar c = b :: (a ++ s) := hs.symm
    obtain ⟨small, empty, -⟩ | ⟨code, missing, low, high, lead, long, fits, -⟩ :=
      encodes_of_eq whole
    · exact Or.inl ⟨small, (List.append_eq_nil_iff.mp empty).1⟩
    · refine Or.inr ⟨code, missing, low, high, lead, ?_, fits.of_append⟩
      rw [← long, List.length_append]
      omega
  · rintro (⟨small, rfl⟩ | ⟨code, missing, low, high, lead, short, fits⟩)
    · have one : Encodes b [] _ := Or.inl ⟨small, rfl, rfl⟩
      exact ⟨_, [], one.eq.symm⟩
    · have bounds := leads_cases lead
      obtain ⟨s, long, whole⟩ := fits.extend (by omega) (by omega) (missing - a.length)
      have all : Encodes b (a ++ s) _ :=
        Or.inr ⟨code, missing, low, high, lead, by rw [List.length_append]; omega, whole, rfl⟩
      exact ⟨_, s, all.eq.symm⟩

theorem Begins.of_append {a s : List UInt8} (h : Begins (a ++ s)) : Begins a := by
  obtain ⟨c, hc⟩ := h
  exact ⟨c, (List.prefix_append a s).trans hc⟩

/-- No encoding is the beginning of another one. -/
theorem eq_of_encodings {c d : Char} {r s : List UInt8}
    (h : String.utf8EncodeChar c ++ r = String.utf8EncodeChar d ++ s) : c = d ∧ r = s := by
  obtain ⟨b, a, hc⟩ := exists_encodes c
  obtain ⟨b', a', hd⟩ := exists_encodes d
  rw [hc, hd] at h
  simp only [List.cons_append, List.cons.injEq] at h
  obtain ⟨rfl, h⟩ := h
  obtain ⟨small, rfl, rfl⟩ | ⟨code, missing, low, high, lead, long, -, rfl⟩ := encodes_of_eq hc
  · obtain ⟨-, rfl, rfl⟩ | ⟨_, _, _, _, lead, -⟩ := encodes_of_eq hd
    · exact ⟨rfl, h⟩
    · have bounds := leads_cases lead
      omega
  · obtain ⟨small, -⟩ | ⟨_, _, _, _, lead', long', -, rfl⟩ := encodes_of_eq hd
    · have bounds := leads_cases lead
      omega
    · rw [lead] at lead'
      cases lead'
      obtain ⟨rfl, rfl⟩ := List.append_inj h (long.trans long'.symm)
      exact ⟨rfl, rfl⟩

/-! ## 4. Reading one sequence -/

/-- A trail that is read to its end. -/
theorem continueSequence_eq_char {code used missing low high n : Nat} {rest : List UInt8}
    {c : Char} (h : continueSequence code used missing low high rest = .char c n) :
    ∃ a s, rest = a ++ s ∧ a.length = missing ∧ Trail low high a ∧
      c = Char.ofNat (codeFrom code a) ∧ n = used + missing := by
  fun_induction continueSequence code used missing low high rest with
  | case1 =>
    cases h
    exact ⟨[], _, rfl, rfl, trivial, rfl, rfl⟩
  | case2 => cases h
  | case3 code used missing low high b rest fits ih =>
    obtain ⟨a, s, rfl, long, trail, hc, hn⟩ := ih h
    exact ⟨b :: a, s, rfl, by simp [long], ⟨fits, trail⟩, by rw [codeFrom_cons, hc], by omega⟩
  | case4 => cases h

/-- A trail that breaks off: the octet behind it cannot go on with it. -/
theorem continueSequence_eq_malformed {code used missing low high n : Nat} {rest : List UInt8}
    {why : Reason} (h : continueSequence code used missing low high rest = .malformed why n) :
    ∃ a s, rest = a ++ s ∧ a.length < missing ∧ Trail low high a ∧ n = used + a.length ∧
      ∀ b ∈ s.head?, ¬ Trail low high (a ++ [b]) := by
  fun_induction continueSequence code used missing low high rest with
  | case1 => cases h
  | case2 =>
    cases h
    exact ⟨[], [], rfl, by simp, trivial, rfl, by simp⟩
  | case3 code used missing low high b rest fits ih =>
    obtain ⟨a, s, rfl, short, trail, hn, ends⟩ := ih h
    refine ⟨b :: a, s, rfl, by simp [short], ⟨fits, trail⟩, by simp [hn]; omega, ?_⟩
    intro x hx further
    exact ends x hx further.2
  | case4 code used missing low high b rest unfit =>
    cases h
    refine ⟨[], b :: rest, rfl, by simp, trivial, rfl, ?_⟩
    intro x hx further
    simp only [List.head?_cons, Option.mem_some_iff] at hx
    exact unfit (hx ▸ further.1)

/-- A character that is read stands there with its encoding. -/
theorem readSequence_eq_char {b : UInt8} {rest : List UInt8} {c : Char} {n : Nat}
    (h : readSequence b rest = .char c n) :
    ∃ a s, rest = a ++ s ∧ String.utf8EncodeChar c = b :: a ∧ n = a.length + 1 := by
  unfold readSequence at h
  split at h
  · cases h
    exact ⟨[], rest, rfl, Encodes.eq (Or.inl ⟨‹_›, rfl, rfl⟩), rfl⟩
  · cases lead : leads b.toNat with
    | none => simp [lead] at h
    | some found =>
      obtain ⟨code, missing, low, high⟩ := found
      rw [lead] at h
      obtain ⟨a, s, rfl, long, fits, hc, rfl⟩ := continueSequence_eq_char h
      exact ⟨a, s, rfl, Encodes.eq (Or.inr ⟨_, _, _, _, lead, long, fits, hc⟩), by omega⟩

/-- A sequence that is refused is malformed. -/
theorem readSequence_eq_malformed {b : UInt8} {rest : List UInt8} {why : Reason} {n : Nat}
    (h : readSequence b rest = .malformed why n) :
    ∃ a s, rest = a ++ s ∧ n = a.length + 1 ∧ Malformed (b :: a) s := by
  unfold readSequence at h
  split at h
  · cases h
  · rename_i large
    cases lead : leads b.toNat with
    | none =>
      simp only [lead, Head.malformed.injEq] at h
      refine ⟨[], rest, rfl, h.2.symm, ?_, Or.inl rfl, ?_⟩
      · rintro c ⟨s, hs⟩
        obtain ⟨b', a, hc⟩ := exists_encodes c
        rw [hc] at hs
        cases hs
        obtain ⟨small, -⟩ | ⟨_, _, _, _, known, -⟩ := encodes_of_eq hc
        · exact large small
        · simp [lead] at known
      · intro x _ further
        obtain ⟨-, empty⟩ | ⟨_, _, _, _, known, -⟩ := begins_cons_iff.mp further
        · simp at empty
        · simp [lead] at known
    | some found =>
      obtain ⟨code, missing, low, high⟩ := found
      rw [lead] at h
      obtain ⟨a, s, rfl, short, fits, rfl, ends⟩ := continueSequence_eq_malformed h
      refine ⟨a, s, rfl, by omega, ?_, ?_, ?_⟩
      · rintro c ⟨r, hr⟩
        obtain ⟨b', a', hc⟩ := exists_encodes c
        rw [hc] at hr
        simp only [List.cons_append, List.cons.injEq] at hr
        obtain ⟨rfl, hr⟩ := hr
        obtain ⟨small, -⟩ | ⟨_, _, _, _, known, long, whole, -⟩ := encodes_of_eq hc
        · exact large small
        · rw [lead] at known
          cases known
          -- the encoding is longer than what was read, so it goes on with the next octet
          obtain ⟨more, rfl⟩ := List.prefix_of_prefix_length_le (List.prefix_append a s)
            ⟨r, hr⟩ (by omega)
          cases more with
          | nil => simp at long; omega
          | cons x more =>
            rw [List.append_assoc, List.append_cancel_left_eq] at hr
            refine ends x (by simp [← hr]) (Trail.of_append (s := more) ?_)
            simpa using whole
      · cases a with
        | nil => exact Or.inl rfl
        | cons x a =>
          refine Or.inr ⟨by simp, begins_cons_iff.mpr ?_⟩
          exact Or.inr ⟨_, _, _, _, lead, by omega, fits⟩
      · intro x hx further
        obtain ⟨small, -⟩ | ⟨_, _, _, _, known, -, whole⟩ := begins_cons_iff.mp further
        · exact large small
        · rw [lead] at known
          cases known
          exact ends x hx whole

/-! ## 5. Reading texts -/

/-- The lossy reader reads a text that the octets stand for. -/
theorem reads_decodeLossyUpTo : ∀ (fuel : Nat) (octets : List UInt8), octets.length ≤ fuel →
    Reads octets (decodeLossyUpTo fuel octets)
  | 0, [], _ => .done
  | 0, _ :: _, long => by simp at long
  | _ + 1, [], _ => .done
  | fuel + 1, b :: rest, long => by
    simp only [List.length_cons] at long
    unfold decodeLossyUpTo
    cases h : readSequence b rest with
    | char c n =>
      obtain ⟨a, s, rfl, hc, rfl⟩ := readSequence_eq_char h
      rw [List.length_append] at long
      have later := reads_decodeLossyUpTo fuel s (by omega)
      have whole := Reads.char c later
      rw [hc] at whole
      simpa using whole
    | malformed why n =>
      obtain ⟨a, s, rfl, rfl, bad⟩ := readSequence_eq_malformed h
      rw [List.length_append] at long
      have later := reads_decodeLossyUpTo fuel s (by omega)
      have whole := Reads.replaced bad later
      simpa using whole

/-- The ways in which octets stand for a text. -/
theorem Reads.ways {octets : List UInt8} {text : List Char} (h : Reads octets text) :
    (octets = [] ∧ text = []) ∨
    (∃ c rest later, octets = String.utf8EncodeChar c ++ rest ∧ text = c :: later ∧
      Reads rest later) ∨
    ∃ bad rest later, octets = bad ++ rest ∧ text = replacement :: later ∧ Malformed bad rest ∧
      Reads rest later := by
  cases h with
  | done => exact Or.inl ⟨rfl, rfl⟩
  | char c later => exact Or.inr (Or.inl ⟨c, _, _, rfl, rfl, later⟩)
  | replaced bad later => exact Or.inr (Or.inr ⟨_, _, _, rfl, rfl, bad, later⟩)

theorem Malformed.ne_nil {bad rest : List UInt8} (h : Malformed bad rest) : bad ≠ [] := by
  rintro rfl
  have start := h.start
  simp at start

/-- Of malformed octets at one head, none are fewer than the others. -/
theorem Malformed.length_le {bad bad' rest rest' : List UInt8} (h : Malformed bad rest)
    (h' : Malformed bad' rest') (same : bad ++ rest = bad' ++ rest') :
    bad'.length ≤ bad.length := by
  refine Nat.not_lt.mp fun longer => ?_
  obtain ⟨more, rfl⟩ := List.prefix_of_prefix_length_le (List.prefix_append bad rest)
    ⟨rest', same.symm⟩ (by omega)
  cases more with
  | nil => simp at longer
  | cons x more =>
    rw [List.append_assoc, List.append_cancel_left_eq] at same
    have nonempty := List.length_pos_iff.mpr h.ne_nil
    have start := h'.start
    simp only [List.length_append, List.length_cons] at start longer
    obtain one | ⟨-, begins⟩ := start
    · omega
    · refine h.longest x (by simp [same]) (Begins.of_append (s := more) ?_)
      simpa using begins

/-- Octets stand for one text. -/
theorem Reads.unique {octets : List UInt8} {text text' : List Char} (h : Reads octets text)
    (h' : Reads octets text') : text = text' := by
  induction h generalizing text' with
  | done =>
    obtain ⟨-, rfl⟩ | ⟨c, rest, _, empty, -⟩ | ⟨bad, rest, _, empty, -, wrong, -⟩ := h'.ways
    · rfl
    · simp at empty
    · simp [wrong.ne_nil] at empty
  | @char c rest text later ih =>
    obtain ⟨empty, -⟩ | ⟨d, rest', text', same, rfl, later'⟩ |
      ⟨bad, rest', text', same, -, wrong, -⟩ := h'.ways
    · simp at empty
    · obtain ⟨rfl, rfl⟩ := eq_of_encodings same
      rw [ih later']
    · exact absurd ⟨rest, same⟩ (wrong.noChar c)
  | @replaced bad rest text wrong later ih =>
    obtain ⟨empty, -⟩ | ⟨c, rest', text', same, -⟩ |
      ⟨bad', rest', text', same, rfl, wrong', later'⟩ := h'.ways
    · simp [wrong.ne_nil] at empty
    · exact absurd ⟨rest', same.symm⟩ (wrong.noChar c)
    · have long := Nat.le_antisymm (wrong'.length_le wrong same.symm) (wrong.length_le wrong' same)
      obtain ⟨rfl, rfl⟩ := List.append_inj same long
      rw [ih later']

/-- The lossy reader reads the text that the octets stand for. -/
theorem reads_iff {octets : List UInt8} {text : List Char} :
    Reads octets text ↔ decodeLossy octets = text := by
  have read : Reads octets (decodeLossy octets) := reads_decodeLossyUpTo _ _ (Nat.le_refl _)
  constructor
  · exact read.unique
  · rintro rfl
    exact read

end Upkeep.Encoding.Utf8
