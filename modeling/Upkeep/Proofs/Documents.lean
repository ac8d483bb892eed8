/-
Upkeep.Proofs.Documents — bundles are written and read back.

A bundle is *plain* if its bodies are texts and its variables have names
(`Bundle.Plain`). A plain bundle is what its document says, and what is read
from a document with nothing but texts and nulls for scripts is plain,
whichever spellings the document uses and whatever its variables are
(`Bundle.ofDocument_toDocument`). That a variable cannot lose its name on the
way rests on every value that is given being written with at least one
character (`Json.Canonical.asText_ne_empty`).
-/
import Upkeep.Lifecycle
import Upkeep.Proofs.Shortest

namespace Upkeep

/-! ## 1. Values as texts -/

namespace Json

open Decimal (Number)

theorem append_ne_empty {s t : String} (h : s ≠ "") : s ++ t ≠ "" := by
  intro empty
  exact h (String.append_eq_empty_iff.mp empty).1

theorem Canonical.number_text_ne_empty {n : Number} (h : (number n).Canonical) : n.text ≠ "" := by
  cases n with
  | whole n =>
    intro empty
    have none := congrArg String.toList empty
    cases n with
    | ofNat n => simp [Number.text, toString, Int.repr, Nat.repr] at none
    | negSucc n => simp [Number.text, toString, Int.repr, Nat.repr] at none
  | double x =>
    cases h with
    | double h => exact Decimal.Binary64.text_ne_empty h

/-- A value that is given is written with one character at least. -/
theorem Canonical.asText_ne_empty {j : Json} (h : j.Canonical) (given : j.isGiven = true) :
    j.asText ≠ "" := by
  cases j with
  | null => cases given
  | bool b => cases b <;> decide
  | number n => exact h.number_text_ne_empty
  | text s =>
    intro empty
    have : s = "" := empty
    subst this
    cases given
  | list items => exact append_ne_empty (append_ne_empty (by decide))
  | object fields => exact append_ne_empty (append_ne_empty (by decide))

theorem Canonical.field? {fields : List (String × Json)} (h : (Json.object fields).Canonical)
    {key : String} {j : Json} (found : Json.field? key fields = some j) : j.Canonical := by
  cases h with
  | object h => exact h _ (mem_of_field? found)

theorem Canonical.items {j : Json} (h : j.Canonical) {items : List Json}
    (shown : j.items = .ok items) : ∀ item ∈ items, item.Canonical := by
  cases h with
  | list h =>
    obtain rfl := Except.ok.inj shown
    exact h
  | text s =>
    obtain rfl := Except.ok.inj shown
    intro item hi
    obtain ⟨c, -, rfl⟩ := List.mem_map.mp hi
    exact .text _
  | object _ =>
    obtain rfl := Except.ok.inj shown
    intro item hi
    obtain ⟨f, -, rfl⟩ := List.mem_map.mp hi
    exact .text _
  | null => cases shown
  | bool b => cases shown
  | whole n => cases shown
  | double _ => cases shown

theorem toText_eq_ok {depths : Depths} {j : Json} {s : String} (h : j.toText depths = .ok s) :
    s = j.asText := by
  unfold toText at h
  split at h
  · cases h
  · exact (Except.ok.inj h).symm

theorem isGiven_text {s : String} : (text s).isGiven = true ↔ s ≠ "" := by
  simp [isGiven]

theorem given?_eq_some {j k : Json} : j.given? = some k ↔ j.isGiven = true ∧ j = k := by
  simp [given?]

/-- What may stand for a script: a text, or null for none. -/
def IsBody : Json → Prop
  | .null | .text _ => True
  | _ => False

instance : DecidablePred IsBody := fun j =>
  match j with
  | .null | .text _ => .isTrue trivial
  | .bool _ | .number _ | .list _ | .object _ => .isFalse id

end Json

namespace Bundle

variable {depths : Json.Depths}

/-! ## 2. Variables -/

/-- A variable that is read has a name. -/
theorem name_ne_empty_of_readVariable {entry : Json} (h : entry.Canonical) {v : Variable}
    (accepted : readVariable entry depths = .ok v) : v.name ≠ "" := by
  unfold readVariable at accepted
  split at accepted
  · rename_i given found
    obtain ⟨written, named, chosen⟩ := Option.bind_eq_some_iff.mp found
    obtain ⟨nonempty, rfl⟩ := Json.given?_eq_some.mp chosen
    obtain ⟨name, shown, accepted⟩ := Json.exists_of_bind_eq_ok accepted
    obtain ⟨value, -, accepted⟩ := Json.exists_of_bind_eq_ok accepted
    obtain rfl := Except.ok.inj accepted
    cases entry with
    | object fields =>
      have canonical : written.Canonical := h.field? named
      cases text : written.toText depths with
      | error why =>
        rw [text] at shown
        cases shown
      | ok s =>
        rw [text] at shown
        obtain rfl := Except.ok.inj shown
        rw [Json.toText_eq_ok text]
        exact canonical.asText_ne_empty nonempty
    | null => cases named
    | bool b => cases named
    | number n => cases named
    | text s => cases named
    | list items => cases named
  · cases accepted

theorem exists_of_mapM_eq_ok {ε α β : Type} {f : α → Except ε β} {xs : List α} {ys : List β}
    (h : xs.mapM f = .ok ys) : ∀ y ∈ ys, ∃ x ∈ xs, f x = .ok y := by
  induction xs generalizing ys with
  | nil =>
    obtain rfl := Except.ok.inj h
    intro y hy
    cases hy
  | cons x xs ih =>
    rw [List.mapM_cons] at h
    obtain ⟨first, found, h⟩ := Json.exists_of_bind_eq_ok h
    obtain ⟨rest, mapped, h⟩ := Json.exists_of_bind_eq_ok h
    obtain rfl := Except.ok.inj h
    intro y hy
    rcases List.mem_cons.mp hy with rfl | hy
    · exact ⟨x, List.mem_cons_self .., found⟩
    · obtain ⟨z, hz, image⟩ := ih mapped y hy
      exact ⟨z, List.mem_cons_of_mem _ hz, image⟩

theorem named_of_mapM {entries : List Json} (h : ∀ entry ∈ entries, entry.Canonical)
    {vars : List Variable} (accepted : entries.mapM (readVariable · depths) = .ok vars) :
    ∀ v ∈ vars, v.name ≠ "" := by
  intro v hv
  obtain ⟨entry, member, read⟩ := exists_of_mapM_eq_ok accepted v hv
  exact name_ne_empty_of_readVariable (h entry member) read

theorem named_of_readVariables {written : Json} (h : written.Canonical) {vars : List Variable}
    (accepted : readVariables written depths = .ok vars) : ∀ v ∈ vars, v.name ≠ "" := by
  unfold readVariables at accepted
  dsimp only at accepted
  split at accepted
  · exact named_of_mapM (by simp) accepted
  · rename_i given chosen
    obtain ⟨-, rfl⟩ := Json.given?_eq_some.mp chosen
    cases shown : written.items with
    | error why =>
      rw [shown] at accepted
      cases accepted
    | ok items =>
      rw [shown] at accepted
      exact named_of_mapM (h.items shown) accepted

/-- A variable is what its document says. -/
theorem readVariable_variableDocument {v : Variable} (named : v.name ≠ "") :
    readVariable (variableDocument v) depths = .ok v := by
  have name : ((variableDocument v).get? "name").bind Json.given? = some (.text v.name) :=
    Json.given?_eq_some.mpr ⟨Json.isGiven_text.mpr named, rfl⟩
  have value : (variableDocument v).get? "value" = some (.text v.value) := rfl
  unfold readVariable
  rw [name, value]
  dsimp only [Option.getD_some]
  rw [Json.toText_text, Json.toText_text]
  rfl

theorem mapM_readVariable {vars : List Variable} (named : ∀ v ∈ vars, v.name ≠ "") :
    (vars.map variableDocument).mapM (readVariable · depths) = .ok vars := by
  induction vars with
  | nil => rfl
  | cons v vars ih =>
    have rest := ih fun u hu => named u (List.mem_cons_of_mem _ hu)
    rw [List.map_cons, List.mapM_cons, readVariable_variableDocument (named v (by simp)), rest]
    rfl

theorem readVariables_map {vars : List Variable} (named : ∀ v ∈ vars, v.name ≠ "") :
    readVariables (.list (vars.map variableDocument)) depths = .ok vars := by
  cases vars with
  | nil => rfl
  | cons v vars => exact mapM_readVariable named

/-! ## 3. Bodies -/

/-- The keys of a phase's script. -/
def keysOf : Phase → List String
  | .statusCheck => statusCheckKeys
  | .init => initKeys
  | .update => updateKeys
  | .cleanup => cleanupKeys

/-- The script of a phase is read under the keys of that phase. -/
theorem script_of_ofFields {fields : List (String × Json)} {b : Bundle}
    (accepted : ofFields fields depths = .ok b) (p : Phase) :
    b.script p = bodyOf fields (keysOf p) := by
  obtain ⟨vars, -, accepted⟩ := Json.exists_of_bind_eq_ok accepted
  obtain rfl := Except.ok.inj accepted
  cases p with
  | statusCheck => rfl
  | init => rfl
  | update => rfl
  | cleanup => rfl

theorem vars_of_ofFields {fields : List (String × Json)} {b : Bundle}
    (accepted : ofFields fields depths = .ok b) :
    readVariables ((Json.field? "variables" fields).getD .null) depths = .ok b.vars := by
  obtain ⟨vars, read, accepted⟩ := Json.exists_of_bind_eq_ok accepted
  obtain rfl := Except.ok.inj accepted
  exact read

theorem scriptOf_text (s : String) : scriptOf (.text s) = .text s := by
  by_cases empty : s = ""
  · subst empty
    rfl
  · have given := Json.given?_eq_some.mpr ⟨Json.isGiven_text.mpr empty, rfl⟩
    unfold scriptOf
    rw [given]
    rfl

/-- The body under the first of the keys that is there, if only texts and
nulls are. -/
theorem exists_text_of_bodyOf {fields : List (String × Json)} {keys : List String}
    (bodies : ∀ key ∈ keys, ∀ j ∈ Json.field? key fields, j.IsBody) :
    ∃ s, bodyOf fields keys = .text s := by
  unfold bodyOf firstField?
  cases found : keys.findSome? fun key => Json.field? key fields with
  | none => exact ⟨"", rfl⟩
  | some j =>
    obtain ⟨key, member, found⟩ := List.exists_of_findSome?_eq_some found
    have body := bodies key member j found
    cases j with
    | null => exact ⟨"", rfl⟩
    | text s => exact ⟨s, scriptOf_text s⟩
    | bool _ => cases body
    | number _ => cases body
    | list _ => cases body
    | object _ => cases body

/-! ## 4. Bundles -/

/-- Bodies are texts, and variables have names. -/
structure Plain (b : Bundle) : Prop where
  texts : ∀ p, ∃ s, b.script p = .text s
  named : ∀ v ∈ b.vars, v.name ≠ ""

/-- A plain bundle is what its document says. -/
theorem Plain.read_back {b : Bundle} (h : b.Plain) : ofDocument b.toDocument depths = .ok b := by
  obtain ⟨init, statusCheck, update, cleanup, vars, privileged⟩ := b
  obtain ⟨i, rfl⟩ : ∃ s, init = .text s := h.texts .init
  obtain ⟨s, rfl⟩ : ∃ s, statusCheck = .text s := h.texts .statusCheck
  obtain ⟨u, rfl⟩ : ∃ s, update = .text s := h.texts .update
  obtain ⟨c, rfl⟩ : ∃ s, cleanup = .text s := h.texts .cleanup
  have read : readVariables (.list (vars.map variableDocument)) depths = .ok vars :=
    readVariables_map h.named
  -- the bodies are texts, so all fields are known, and only the variables have to be read
  calc ofFields (toFields ⟨.text i, .text s, .text u, .text c, vars, privileged⟩) depths
      = (readVariables (.list (vars.map variableDocument)) depths >>= fun vars => .ok
          ⟨scriptOf (.text i), scriptOf (.text s), scriptOf (.text u), scriptOf (.text c), vars,
            privileged⟩) := rfl
    _ = .ok ⟨.text i, .text s, .text u, .text c, vars, privileged⟩ := by
        rw [read, scriptOf_text, scriptOf_text, scriptOf_text, scriptOf_text]
        rfl

/-- What is read is plain if nothing but texts and nulls stand for scripts. -/
theorem plain_of_ofFields {fields : List (String × Json)} {b : Bundle}
    (canonical : (Json.object fields).Canonical)
    (bodies : ∀ p, ∀ key ∈ keysOf p, ∀ j ∈ Json.field? key fields, j.IsBody)
    (accepted : ofFields fields depths = .ok b) : b.Plain := by
  constructor
  · intro p
    rw [script_of_ofFields accepted p]
    exact exists_text_of_bodyOf (bodies p)
  · refine named_of_readVariables ?_ (vars_of_ofFields accepted)
    cases found : Json.field? "variables" fields with
    | none => exact .null
    | some written => exact canonical.field? found

/-- Plain bundles survive being written and read back, and only plain ones
come from documents in which nothing but texts and nulls stand for scripts.
Whatever is read from a text is such a document. -/
theorem ofDocument_toDocument (depths : Json.Depths) :
    (∀ b : Bundle, b.Plain → ofDocument b.toDocument depths = .ok b) ∧
      (∀ (document : Json.Document) b,
        (∀ p, ∀ key ∈ keysOf p, ∀ j ∈ document.value.get? key, j.IsBody) →
        ofDocument document.value depths = .ok b →
          b.Plain ∧ ofDocument b.toDocument depths = .ok b) ∧
      ∀ s j, Json.read s depths = .ok j → ∃ document : Json.Document, document.value = j := by
  refine ⟨fun b h => h.read_back, ?_, fun s j => Json.exists_document_of_read⟩
  rintro ⟨value, canonical⟩ b bodies accepted
  cases value with
  | object fields =>
    have plain := plain_of_ofFields canonical bodies accepted
    exact ⟨plain, plain.read_back⟩
  | _ => cases accepted

/-- Fields under mixed spellings, with a null among the scripts and variables
whose names and values are no texts. -/
def mixedFields : List (String × Json) := [
  ("init_script", .text "mkdir /srv"),
  ("status_check", .null),
  ("updateScript", .text "ls"),
  ("cleanup", .text ""),
  ("variables", .list [
    .object [("name", .number (.double (.finite false 6755399441055744 (-52)))), ("value", .null)],
    .object [("name", .bool true)]]),
  ("sudo_enabled", .number (.whole 1))]

/-- What the mixed fields write. -/
def mixed : Bundle where
  init := .text "mkdir /srv"
  update := .text "ls"
  vars := [⟨"1.5", "None"⟩, ⟨"True", ""⟩]
  privileged := true

/-- The mixed fields as a document. -/
def mixedDocument : Json.Document where
  value := .object mixedFields
  canonical := by
    refine .object fun f hf => ?_
    simp only [mixedFields, List.mem_cons, List.not_mem_nil, or_false] at hf
    rcases hf with rfl | rfl | rfl | rfl | rfl | rfl
    · exact .text _
    · exact .null
    · exact .text _
    · exact .text _
    · have name : (Decimal.Binary64.finite false 6755399441055744 (-52)).Canonical :=
        ⟨by decide, fun short => absurd short (by decide), by decide, by decide⟩
      have first : ∀ f ∈ [("name", Json.number (.double (.finite false 6755399441055744 (-52)))),
          ("value", Json.null)], f.2.Canonical :=
        List.forall_mem_cons.mpr ⟨.double name, List.forall_mem_singleton.mpr .null⟩
      have second : ∀ f ∈ [("name", Json.bool true)], f.2.Canonical :=
        List.forall_mem_singleton.mpr (.bool true)
      exact .list (List.forall_mem_cons.mpr
        ⟨.object first, List.forall_mem_singleton.mpr (.object second)⟩)
    · exact .whole 1

theorem ofDocument_toDocument_mixed :
    ofDocument mixedDocument.value .usual = .ok mixed ∧ mixed.Plain ∧
      ofDocument mixed.toDocument .usual = .ok mixed := by
  have accepted : ofDocument mixedDocument.value .usual = .ok mixed := rfl
  have bodies : ∀ p, ∀ key ∈ keysOf p, ∀ j ∈ mixedDocument.value.get? key, j.IsBody := by
    intro p
    cases p with
    | statusCheck => decide
    | init => decide
    | update => decide
    | cleanup => decide
  have plain : mixed.Plain :=
    ((ofDocument_toDocument .usual).2.1 mixedDocument mixed bodies accepted).1
  exact ⟨accepted, plain, (ofDocument_toDocument .usual).1 mixed plain⟩

end Bundle

end Upkeep
