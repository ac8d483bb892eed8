/-
Upkeep.Proofs.Filling — what a filled script is.

`Fills vars s out` reads a script once from the left. Where placeholders
stand, the longest of them is read as a whole and the value of its variable
is written; where none stands, one character is read and written. What is
written is not read again, and of variables with one name the last one
counts (`Counts`). Names are any texts: placeholders may contain braces,
begin with one another or overlap in the script.

Main statement: `fill_eq_iff_fills` — filling a script is this reading, and
so it hangs on nothing about the variables but the last one of each name.

Filling itself tries the placeholders one after the other and takes the
first that the text goes on with. That this is the longest one is due to the
order in which they are tried (`rule_cases`); that it is the only longest
one, to placeholders of one length that stand at one place being equal
(`Stands.unique`).
-/
import Mathlib.Data.List.Induction
import Upkeep.Placeholder

namespace Upkeep.Placeholder

/-! ## 1. Reading a script -/

/-- The variable is the last one of its name. -/
def Counts (vars : List Variable) (v : Variable) : Prop :=
  (vars.filter fun u => u.name = v.name).getLast? = some v

/-- The placeholder of the variable, which counts, begins the text, and no
longer placeholder does. -/
structure Stands (vars : List Variable) (v : Variable) (s : List Char) : Prop where
  counts : Counts vars v
  begins : ofName v.name <+: s
  longest : ∀ u ∈ vars, ofName u.name <+: s → (ofName u.name).length ≤ (ofName v.name).length

/-- Reading the script `s` from the left writes `out`. -/
inductive Fills (vars : List Variable) : List Char → List Char → Prop
  | done : Fills vars [] []
  | filled {v : Variable} {rest out : List Char} : Stands vars v (ofName v.name ++ rest) →
      Fills vars rest out → Fills vars (ofName v.name ++ rest) (v.value.toList ++ out)
  | kept {c : Char} {rest out : List Char} : (∀ u ∈ vars, ¬ ofName u.name <+: c :: rest) →
      Fills vars rest out → Fills vars (c :: rest) (c :: out)

/-! ## 2. Placeholders -/

theorem ofName_injective {a b : String} (h : ofName a = ofName b) : a = b := by
  simp only [ofName, List.cons_append, List.cons.injEq, true_and, List.append_cancel_right_eq] at h
  exact String.toList_inj.mp h

theorem length_ofName (name : String) : (ofName name).length = name.toList.length + 4 := by
  simp [ofName]

/-- Placeholders of one length at the beginning of one text are equal. -/
theorem name_eq_of_begins {a b : String} {s : List Char} (ha : ofName a <+: s)
    (hb : ofName b <+: s) (same : (ofName a).length = (ofName b).length) : a = b := by
  have both : ofName a <+: ofName b := List.prefix_of_prefix_length_le ha hb (Nat.le_of_eq same)
  exact ofName_injective (both.eq_of_length same)

/-! ## 3. The variables that count -/

theorem Counts.mem {vars : List Variable} {v : Variable} (h : Counts vars v) : v ∈ vars :=
  (List.mem_filter.mp (List.mem_of_getLast? h)).1

theorem Counts.unique {vars : List Variable} {v w : Variable} (hv : Counts vars v)
    (hw : Counts vars w) (same : v.name = w.name) : v = w := by
  unfold Counts at hv hw
  rw [same, hw] at hv
  exact (Option.some.inj hv).symm

/-- Of the variables of a name, one counts. -/
theorem exists_counts {vars : List Variable} {u : Variable} (h : u ∈ vars) :
    ∃ v, Counts vars v ∧ v.name = u.name := by
  have found : u ∈ vars.filter fun w => w.name = u.name := by simp [h]
  obtain ⟨v, hv⟩ : ∃ v, (vars.filter fun w => w.name = u.name).getLast? = some v :=
    Option.isSome_iff_exists.mp (List.getLast?_isSome.mpr (List.ne_nil_of_mem found))
  have same : v.name = u.name := by
    have := (List.mem_filter.mp (List.mem_of_getLast? hv)).2
    simpa using this
  refine ⟨v, ?_, same⟩
  unfold Counts
  rw [same]
  exact hv

/-- A variable at the end counts, and of the others those that do not have
its name and counted before. -/
theorem counts_append_singleton {vars : List Variable} {x v : Variable} :
    Counts (vars ++ [x]) v ↔ v = x ∨ v.name ≠ x.name ∧ Counts vars v := by
  unfold Counts
  by_cases same : x.name = v.name
  · have kept : [x].filter (fun u => u.name = v.name) = [x] := by simp [same]
    rw [List.filter_append, kept, List.getLast?_concat]
    constructor
    · intro h
      exact Or.inl (Option.some.inj h).symm
    · rintro (rfl | ⟨different, -⟩)
      · rfl
      · exact absurd same.symm different
  · have dropped : [x].filter (fun u => u.name = v.name) = [] := by simp [same]
    rw [List.filter_append, dropped, List.append_nil]
    constructor
    · intro h
      exact Or.inr ⟨fun h' => same h'.symm, h⟩
    · rintro (rfl | ⟨-, h⟩)
      · exact absurd rfl same
      · exact h

/-- Which variables count hangs on the variables of each name alone. -/
theorem counts_congr {vars vars' : List Variable}
    (h : ∀ name, vars'.filter (·.name = name) = vars.filter (·.name = name)) (v : Variable) :
    Counts vars' v ↔ Counts vars v := by
  unfold Counts
  rw [h v.name]

/-- A variable that is followed by one of its name does not count. -/
theorem counts_drop {before after : List Variable} {u : Variable}
    (followed : ∃ w ∈ after, w.name = u.name) (v : Variable) :
    Counts (before ++ after) v ↔ Counts (before ++ u :: after) v := by
  unfold Counts
  by_cases same : u.name = v.name
  · obtain ⟨w, hw, named⟩ := followed
    have found : w ∈ after.filter fun x => x.name = v.name := by simp [hw, named, same]
    obtain ⟨last, hlast⟩ : ∃ last, (after.filter fun x => x.name = v.name).getLast? = some last :=
      Option.isSome_iff_exists.mp (List.getLast?_isSome.mpr (List.ne_nil_of_mem found))
    simp [List.getLast?_append, List.getLast?_cons, same, hlast]
  · simp [same]

/-! ## 4. The bindings -/

/-- Setting a binding adds its placeholder, unless that is bound. -/
theorem keys_bind (key value : List Char) (bound : List Binding) :
    (bind key value bound).map Prod.fst =
      if key ∈ bound.map Prod.fst then bound.map Prod.fst else bound.map Prod.fst ++ [key] := by
  induction bound with
  | nil => simp [bind]
  | cons b rest ih =>
    obtain ⟨k, x⟩ := b
    by_cases hk : k = key
    · simp [bind, hk]
    · have hk' : ¬ key = k := fun h => hk h.symm
      by_cases hr : key ∈ rest.map Prod.fst
      · rw [if_pos hr] at ih
        simp [bind, hk, ih, hr]
      · rw [if_neg hr] at ih
        simp [bind, hk, hk', ih, hr]

theorem nodup_keys_bind {key value : List Char} {bound : List Binding}
    (h : (bound.map Prod.fst).Nodup) : ((bind key value bound).map Prod.fst).Nodup := by
  rw [keys_bind]
  split
  · exact h
  · rename_i new
    refine List.nodup_append.mpr ⟨h, by simp, fun k hk k' hk' same => ?_⟩
    rw [List.mem_singleton.mp hk'] at same
    exact new (same ▸ hk)

/-- Setting a binding takes the place of the one for its placeholder. -/
theorem mem_bind {key value : List Char} {bound : List Binding} {b : Binding}
    (h : (bound.map Prod.fst).Nodup) :
    b ∈ bind key value bound ↔ b = (key, value) ∨ b ∈ bound ∧ b.1 ≠ key := by
  induction bound with
  | nil => simp [bind]
  | cons a rest ih =>
    obtain ⟨k, x⟩ := a
    rw [List.map_cons, List.nodup_cons] at h
    by_cases hk : k = key
    · subst hk
      have others (hb : b ∈ rest) : b.1 ≠ k := fun same =>
        h.1 (List.mem_map.mpr ⟨b, hb, same⟩)
      simp only [bind, BEq.rfl, if_true, List.mem_cons]
      constructor
      · rintro (rfl | hb)
        · exact Or.inl rfl
        · exact Or.inr ⟨Or.inr hb, others hb⟩
      · rintro (rfl | ⟨rfl | hb, different⟩)
        · exact Or.inl rfl
        · exact absurd rfl different
        · exact Or.inr hb
    · simp only [bind, beq_iff_eq, hk, if_false, List.mem_cons, ih h.2]
      constructor
      · rintro (rfl | rfl | ⟨hb, different⟩)
        · exact Or.inr ⟨Or.inl rfl, hk⟩
        · exact Or.inl rfl
        · exact Or.inr ⟨Or.inr hb, different⟩
      · rintro (rfl | ⟨rfl | hb, different⟩)
        · exact Or.inr (Or.inl rfl)
        · exact Or.inl rfl
        · exact Or.inr (Or.inr ⟨hb, different⟩)

theorem bindings_append_singleton (vars : List Variable) (x : Variable) :
    bindings (vars ++ [x]) = bind (ofName x.name) x.value.toList (bindings vars) := by
  simp [bindings]

theorem nodup_keys_bindings (vars : List Variable) : ((bindings vars).map Prod.fst).Nodup := by
  induction vars using List.reverseRecOn with
  | nil => exact List.nodup_nil
  | append_singleton vars x ih =>
    rw [bindings_append_singleton]
    exact nodup_keys_bind ih

/-- The bindings are those of the variables that count. -/
theorem mem_bindings {vars : List Variable} {b : Binding} :
    b ∈ bindings vars ↔ ∃ v, Counts vars v ∧ b = (ofName v.name, v.value.toList) := by
  induction vars using List.reverseRecOn with
  | nil => simp [bindings, Counts]
  | append_singleton vars x ih =>
    rw [bindings_append_singleton, mem_bind (nodup_keys_bindings vars), ih]
    constructor
    · rintro (rfl | ⟨⟨v, hv, rfl⟩, different⟩)
      · exact ⟨x, counts_append_singleton.mpr (Or.inl rfl), rfl⟩
      · refine ⟨v, counts_append_singleton.mpr (Or.inr ⟨?_, hv⟩), rfl⟩
        exact fun same => different (congrArg ofName same)
    · rintro ⟨v, hv, rfl⟩
      obtain rfl | ⟨different, hv⟩ := counts_append_singleton.mp hv
      · exact Or.inl rfl
      · exact Or.inr ⟨⟨v, hv, rfl⟩, fun same => different (ofName_injective same)⟩

/-! ## 5. What stands at a place -/

/-- The first placeholder that is tried with success is the longest one. -/
theorem le_of_find?_inTurn {bound : List Binding} {s : List Char} {b : Binding}
    (h : (inTurn bound).find? (fun b => b.1.isPrefixOf s) = some b) :
    ∀ a ∈ bound, a.1 <+: s → a.1.length ≤ b.1.length := by
  obtain ⟨-, before, after, split, failed⟩ := List.find?_eq_some_iff_append.mp h
  have sorted : (inTurn bound).Pairwise fun a b => b.1.length ≤ a.1.length := by
    have := @List.pairwise_mergeSort Binding (fun a b => b.1.length ≤ a.1.length)
      (fun a b c hab hbc => by simp only [decide_eq_true_eq] at *; omega)
      (fun a b => by simp only [Bool.or_eq_true, decide_eq_true_eq]; omega) bound
    simpa [inTurn] using this
  intro a ha begins
  have found : a ∈ before ++ b :: after := split ▸ List.mem_mergeSort.mpr ha
  rw [split] at sorted
  rcases List.mem_append.mp found with earlier | later
  · have := failed a earlier
    rw [List.isPrefixOf_iff_prefix.mpr begins] at this
    cases this
  · rcases List.mem_cons.mp later with rfl | later
    · exact Nat.le_refl _
    · exact List.rel_of_pairwise_cons (List.pairwise_append.mp sorted).2.1 later

/-- The rule answers with the longest placeholder at a place if there is one
at all, and with the value of the variable that counts. -/
theorem rule_cases (vars : List Variable) (s : List Char) :
    (rule (inTurn (bindings vars)) s = none ∧ ∀ u ∈ vars, ¬ ofName u.name <+: s) ∨
      ∃ v, Stands vars v s ∧
        rule (inTurn (bindings vars)) s = some ((ofName v.name).length, v.value.toList) := by
  have bound {u : Variable} (hu : u ∈ vars) : ∃ b ∈ bindings vars, b.1 = ofName u.name := by
    obtain ⟨w, hw, named⟩ := exists_counts hu
    exact ⟨_, mem_bindings.mpr ⟨w, hw, rfl⟩, congrArg ofName named⟩
  unfold rule
  rcases found : (inTurn (bindings vars)).find? (fun b => b.1.isPrefixOf s) with _ | b
  · refine Or.inl ⟨by rw [found]; rfl, fun u hu begins => ?_⟩
    obtain ⟨b, hb, key⟩ := bound hu
    have none := List.find?_eq_none.mp found b (List.mem_mergeSort.mpr hb)
    exact none (List.isPrefixOf_iff_prefix.mpr (key ▸ begins))
  · have tried : b ∈ bindings vars := List.mem_mergeSort.mp (List.mem_of_find?_eq_some found)
    obtain ⟨v, counts, rfl⟩ := mem_bindings.mp tried
    have begins : ofName v.name <+: s := List.isPrefixOf_iff_prefix.mp
      (List.find?_some (p := fun b : Binding => b.1.isPrefixOf s) found)
    refine Or.inr ⟨v, ⟨counts, begins, fun u hu begins' => ?_⟩, by rw [found]; rfl⟩
    obtain ⟨a, ha, key⟩ := bound hu
    rw [← key]
    exact le_of_find?_inTurn found a ha (key ▸ begins')

/-- At most one placeholder stands at a place. -/
theorem Stands.unique {vars : List Variable} {v w : Variable} {s : List Char}
    (hv : Stands vars v s) (hw : Stands vars w s) : v = w := by
  have le := hv.longest w hw.counts.mem hw.begins
  have ge := hw.longest v hv.counts.mem hv.begins
  exact hv.counts.unique hw.counts (name_eq_of_begins hv.begins hw.begins (Nat.le_antisymm ge le))

/-! ## 6. Filling is reading -/

/-- What filling writes is written by reading. The induction is on the text
that is left, which a placeholder shortens by more than one character. -/
theorem fills_substitute (vars : List Variable) (s : List Char) :
    Fills vars s (Text.substitute (rule (inTurn (bindings vars))) s) := by
  match s with
  | [] => exact .done
  | c :: rest =>
    obtain ⟨unanswered, absent⟩ | ⟨v, stands, answered⟩ := rule_cases vars (c :: rest)
    · rw [Text.substitute_cons_of_none unanswered]
      exact .kept absent (fills_substitute vars rest)
    · rw [Text.substitute_cons_of_some answered]
      obtain ⟨left, split⟩ := stands.begins
      have behind : rest.drop ((ofName v.name).length - 1) = left := by
        have : (c :: rest).drop (ofName v.name).length = left := by rw [← split, List.drop_left]
        rw [← this, length_ofName]
        rfl
      have shorter : left.length < (c :: rest).length := by
        rw [← split, List.length_append, length_ofName]
        omega
      rw [behind, ← split]
      exact .filled (split ▸ stands) (fills_substitute vars left)
termination_by s.length

/-- A script is read in one way. -/
theorem Fills.unique {vars : List Variable} {s out out' : List Char} (h : Fills vars s out)
    (h' : Fills vars s out') : out = out' := by
  induction h generalizing out' with
  | done =>
    generalize hs : ([] : List Char) = s at h'
    cases h' with
    | done => rfl
    | filled => simp [ofName] at hs
    | kept => cases hs
  | @filled v rest out stands _ ih =>
    generalize hs : ofName v.name ++ rest = s at h'
    cases h' with
    | done => simp [ofName] at hs
    | @filled w rest' _ stands' reading =>
      obtain rfl : v = w := stands.unique (hs ▸ stands')
      obtain rfl := List.append_cancel_left hs
      rw [ih reading]
    | kept absent _ => exact absurd (hs ▸ stands.begins) (absent v stands.counts.mem)
  | @kept c rest out absent _ ih =>
    generalize hs : c :: rest = s at h'
    cases h' with
    | done => cases hs
    | @filled w _ _ stands' _ => exact absurd (hs ▸ stands'.begins) (absent w stands'.counts.mem)
    | kept _ reading =>
      cases hs
      rw [ih reading]

theorem fill_eq_iff {script out : String} {vars : List Variable} :
    fill script vars = out ↔ Fills vars script.toList out.toList := by
  have reading := fills_substitute vars script.toList
  constructor
  · rintro rfl
    unfold fill
    rw [String.toList_ofList]
    exact reading
  · intro h
    unfold fill
    rw [reading.unique h, String.ofList_toList]

/-- Reading hangs on nothing but the variables that count. -/
theorem Fills.congr {vars vars' : List Variable} (same : ∀ v, Counts vars' v ↔ Counts vars v)
    {s out : List Char} (h : Fills vars s out) : Fills vars' s out := by
  have back {u : Variable} (hu : u ∈ vars') : ∃ v ∈ vars, v.name = u.name := by
    obtain ⟨v, hv, named⟩ := exists_counts hu
    exact ⟨v, ((same v).mp hv).mem, named⟩
  induction h with
  | done => exact .done
  | filled stands _ ih =>
    refine .filled ⟨(same _).mpr stands.counts, stands.begins, fun u hu begins => ?_⟩ ih
    obtain ⟨v, hv, named⟩ := back hu
    rw [← named] at begins ⊢
    exact stands.longest v hv begins
  | kept absent _ ih =>
    refine .kept (fun u hu begins => ?_) ih
    obtain ⟨v, hv, named⟩ := back hu
    exact absent v hv (named ▸ begins)

theorem fill_congr {script : String} {vars vars' : List Variable}
    (same : ∀ v, Counts vars' v ↔ Counts vars v) : fill script vars' = fill script vars :=
  fill_eq_iff.mpr (Fills.congr same (fill_eq_iff.mp rfl))

/-- Filling a script is reading it once from the left, the longest
placeholder first, with the last variable of each name. So other variables
fill it in the same way if those of each name are the same in the same
order, and a variable may be left out if one of its name comes later. -/
theorem fill_eq_iff_fills (script : String) (vars : List Variable) :
    (∀ out : String, fill script vars = out ↔ Fills vars script.toList out.toList) ∧
    (∀ vars' : List Variable,
      (∀ name, vars'.filter (·.name = name) = vars.filter (·.name = name)) →
        fill script vars' = fill script vars) ∧
    (∀ before u after, vars = before ++ u :: after → (∃ v ∈ after, v.name = u.name) →
      fill script (before ++ after) = fill script vars) := by
  refine ⟨fun out => fill_eq_iff, fun vars' same => fill_congr (counts_congr same), ?_⟩
  rintro before u after rfl followed
  exact fill_congr (counts_drop followed)

/-- Of two placeholders that begin with one another the longer one is filled,
what it is filled with is not read again, and the first `A` counts for
nothing, wherever it stands. -/
theorem fill_eq_iff_fills_nested :
    let longer : Variable := ⟨"A\x7d\x7dB", "\x7b\x7bA\x7d\x7d"⟩
    let vars : List Variable := [⟨"A", "1"⟩, longer, ⟨"A", "2"⟩]
    let script := "\x7b\x7bA\x7d\x7dB\x7d\x7d \x7b\x7bA\x7d\x7d"
    fill script vars = "\x7b\x7bA\x7d\x7d 2" ∧
      fill script [longer, ⟨"A", "1"⟩, ⟨"A", "2"⟩] = fill script vars ∧
      fill script [longer, ⟨"A", "2"⟩] = fill script vars := by
  intro longer vars script
  obtain ⟨reading, reordered, dropped⟩ := fill_eq_iff_fills script vars
  have read : Fills vars script.toList "\x7b\x7bA\x7d\x7d 2".toList := by
    have text : script.toList = ofName "A\x7d\x7dB" ++ ' ' :: (ofName "A" ++ []) := by decide
    have out : "\x7b\x7bA\x7d\x7d 2".toList =
      longer.value.toList ++ ' ' :: ("2".toList ++ []) := by decide
    rw [text, out]
    refine .filled (v := longer) ⟨rfl, ⟨_, rfl⟩, by decide⟩ (.kept (by decide) ?_)
    exact .filled (v := ⟨"A", "2"⟩) ⟨rfl, ⟨_, rfl⟩, by decide⟩ .done
  refine ⟨(reading _).mpr read, reordered _ fun name => ?_, ?_⟩
  · by_cases named : "A" = name
    · subst named
      rfl
    · simp [vars, List.filter_cons, named]
  · exact dropped [] ⟨"A", "1"⟩ [longer, ⟨"A", "2"⟩] rfl ⟨⟨"A", "2"⟩, by simp, rfl⟩

end Upkeep.Placeholder
