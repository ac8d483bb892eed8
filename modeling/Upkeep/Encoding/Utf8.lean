/-
Upkeep.Encoding.Utf8 — reading UTF-8, and the octets that a text takes.

A sequence starts with an octet that tells how many follow and between
which bounds the first of them lies (`leads`); the others lie between
`80` and `BF`. `readSequence` reads one sequence and says how many octets
belong to it, also when it is malformed: a malformed sequence ends before
the first octet that cannot continue it. From that one function come the
two readers, `decodeLossy`, which puts one replacement character for each
malformed sequence, and `decode`, which reports the first; only `decode`
lets encoded surrogates pass. A text with a surrogate in it cannot be
written (`octetCount`).
-/
import Upkeep.Encoding.Scheme
import Upkeep.Text.Quoted

namespace Upkeep.Encoding.Utf8

/-! ## 1. One sequence -/

/-- What stands at the head of the octets: a character, or a malformed
sequence, with the number of octets that it takes. -/
inductive Head
  | char (c : Char) (used : Nat)
  | malformed (reason : Reason) (used : Nat)
  deriving DecidableEq, Repr

/-- For a leading octet: its payload, how many octets follow, and the
bounds of the first of them. -/
def leads (b : Nat) : Option (Nat × Nat × Nat × Nat) :=
  if 0xC2 ≤ b ∧ b ≤ 0xDF then some (b - 0xC0, 1, 0x80, 0xBF)
  else if b = 0xE0 then some (0, 2, 0xA0, 0xBF)
  else if b = 0xED then some (0xD, 2, 0x80, 0x9F)
  else if 0xE1 ≤ b ∧ b ≤ 0xEF then some (b - 0xE0, 2, 0x80, 0xBF)
  else if b = 0xF0 then some (0, 3, 0x90, 0xBF)
  else if 0xF1 ≤ b ∧ b ≤ 0xF3 then some (b - 0xF0, 3, 0x80, 0xBF)
  else if b = 0xF4 then some (4, 3, 0x80, 0x8F)
  else none

/-- Read `missing` more octets onto the code point so far, the next one
between the bounds; `used` octets have been read. -/
def continueSequence (code used : Nat) : (missing low high : Nat) → List UInt8 → Head
  | 0, _, _, _ => .char (Char.ofNat code) used
  | _ + 1, _, _, [] => .malformed .unexpectedEnd used
  | missing + 1, low, high, b :: rest =>
    if low ≤ b.toNat ∧ b.toNat ≤ high then
      continueSequence (code * 64 + (b.toNat - 0x80)) (used + 1) missing 0x80 0xBF rest
    else .malformed .invalidContinuation used

/-- The sequence that starts with octet `b`. -/
def readSequence (b : UInt8) (rest : List UInt8) : Head :=
  if b.toNat < 0x80 then .char (Char.ofNat b.toNat) 1
  else match leads b.toNat with
    | none => .malformed .invalidStart 1
    | some (code, missing, low, high) => continueSequence code 1 missing low high rest

/-! ## 2. Reading with replacement -/

/-- What stands for a malformed sequence. -/
def replacement : Char := Char.ofNat 0xFFFD

/-- Read at most `fuel` sequences, a malformed one as the replacement
character. -/
def decodeLossyUpTo : (fuel : Nat) → List UInt8 → List Char
  | 0, _ => []
  | _ + 1, [] => []
  | fuel + 1, b :: rest =>
    match readSequence b rest with
    | .char c used => c :: decodeLossyUpTo fuel (rest.drop (used - 1))
    | .malformed _ used => replacement :: decodeLossyUpTo fuel (rest.drop (used - 1))

/-- The text of the octets, with one replacement character for each
malformed sequence. -/
def decodeLossy (octets : List UInt8) : List Char :=
  decodeLossyUpTo octets.length octets

/-! ## 3. Reading with a report -/

/-- The surrogate that the octets at the head encode, if they do. -/
def surrogate? : List UInt8 → Option Nat
  | 0xED :: b :: c :: _ =>
    if 0xA0 ≤ b.toNat ∧ b.toNat ≤ 0xBF ∧ 0x80 ≤ c.toNat ∧ c.toNat ≤ 0xBF then
      some (0xD800 + (b.toNat - 0xA0) * 64 + (c.toNat - 0x80))
    else none
  | _ => none

/-- Read at most `fuel` sequences from a position on. An encoded surrogate
is kept as one character. -/
def decodeUpTo : (fuel position : Nat) → List UInt8 → Except Undecodable (List Char)
  | 0, _, _ => .ok []
  | _ + 1, _, [] => .ok []
  | fuel + 1, position, b :: rest =>
    match surrogate? (b :: rest) with
    | some half => (Text.charOf half :: ·) <$> decodeUpTo fuel (position + 3) (rest.drop 2)
    | none =>
      match readSequence b rest with
      | .char c used => (c :: ·) <$> decodeUpTo fuel (position + used) (rest.drop (used - 1))
      | .malformed reason used =>
        .error ⟨.utf8, position, position + used - 1, b, reason⟩

/-- The text of the octets, or a report on the first malformed sequence. -/
def decode (octets : List UInt8) : Except Undecodable (List Char) :=
  decodeUpTo octets.length 0 octets

/-! ## 4. Writing -/

/-- Surrogates that stand side by side in a text and cannot be encoded:
the positions of the first and of the last of them, and the first itself. -/
structure Unencodable where
  first : Nat
  last : Nat
  surrogate : Nat
  deriving DecidableEq, Repr

/-- The report about surrogates; a single one is shown. -/
def Unencodable.message (u : Unencodable) : String :=
  let shown := String.ofList (Text.escapeCode u.surrogate)
  if u.first == u.last then
    s!"'utf-8' codec can't encode character '{shown}' in position {u.first}: surrogates not allowed"
  else
    s!"'utf-8' codec can't encode characters in position {u.first}-{u.last}: surrogates not allowed"

/-- How many octets a text takes, or a report on the first surrogates in
it. -/
def octetCount (s : String) : Except Unencodable Nat :=
  match s.toList.findIdx? Text.isHalf with
  | none => .ok s.utf8ByteSize
  | some first =>
    let run := (s.toList.drop first).takeWhile Text.isHalf
    .error ⟨first, first + run.length - 1, (run.head?.map Text.codePoint).getD 0⟩

end Upkeep.Encoding.Utf8
