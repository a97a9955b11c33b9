import JsonValidators.Kind
import JsonValidators.Path
import JsonValidators.Proofs.Equality
import JsonValidators.Proofs.Outputs

/-!
The order of keys. Two values are reorderings of one another if the keys of their
objects are the same in any order, at any depth, and no object has a key twice. Nothing
that looks keys up can tell such values apart: neither the equality that constants are
checked with, nor a path, nor a merge of objects.
-/

namespace JsonValidators

namespace Entries

/-- The same keys without repetition, in any order, with related values. -/
structure Matched {α β : Type} (R : α → β → Prop) (first : Entries α) (second : Entries β) :
    Prop where
  nodup : (keys first).Nodup
  perm : (keys first).Perm (keys second)
  related : ∀ key x y, get? first key = some x → get? second key = some y → R x y

variable {α β γ δ : Type} {R : α → β → Prop} {first : Entries α} {second : Entries β}

theorem mem_keys_iff {key : String} : key ∈ keys first ↔ ∃ x, get? first key = some x := by
  rw [← isSome_get?_iff, Option.isSome_iff_exists]

namespace Matched

theorem nodup_right (h : Matched R first second) : (keys second).Nodup :=
  h.perm.nodup_iff.mp h.nodup

theorem flip (h : Matched R first second) : Matched (fun y x => R x y) second first :=
  ⟨h.nodup_right, h.perm.symm, fun key y x hy hx => h.related key x y hx hy⟩

theorem length_eq (h : Matched R first second) : first.length = second.length := by
  have hlength := h.perm.length_eq
  simpa only [keys, List.length_map] using hlength

theorem get? (h : Matched R first second) (key : String) :
    Option.Rel R (get? first key) (get? second key) := by
  cases hfirst : Entries.get? first key with
  | none =>
    cases hsecond : Entries.get? second key with
    | none => exact .none
    | some y =>
      have hkey := h.perm.mem_iff.mpr (mem_keys_iff.mpr ⟨y, hsecond⟩)
      obtain ⟨x, hx⟩ := mem_keys_iff.mp hkey
      exact absurd (hfirst.symm.trans hx) nofun
  | some x =>
    have hkey := h.perm.mem_iff.mp (mem_keys_iff.mpr ⟨x, hfirst⟩)
    obtain ⟨y, hy⟩ := mem_keys_iff.mp hkey
    rw [hy]
    exact .some (h.related key x y hfirst hy)

/-- Dictionaries match if all keys lead to the same in both. -/
theorem of_get? (hfirst : (keys first).Nodup) (hsecond : (keys second).Nodup)
    (h : ∀ key, Option.Rel R (Entries.get? first key) (Entries.get? second key)) :
    Matched R first second := by
  refine ⟨hfirst, (List.perm_ext_iff_of_nodup hfirst hsecond).mpr fun key => ?_, ?_⟩
  · rw [mem_keys_iff, mem_keys_iff]
    constructor
    · rintro ⟨x, hx⟩
      obtain ⟨y, hy, _⟩ := exists_right_of_rel (hx ▸ h key)
      exact ⟨y, hy⟩
    · rintro ⟨y, hy⟩
      obtain ⟨x, hx, _⟩ := exists_left_of_rel (hy ▸ h key)
      exact ⟨x, hx⟩
  · intro key x y hx hy
    have hrelated := h key
    rw [hx, hy, Option.rel_some_some] at hrelated
    exact hrelated

theorem nil : Matched R [] [] := of_get? List.nodup_nil List.nodup_nil fun _ => .none

theorem exists_right (h : Matched R first second) {entry : String × α} (hentry : entry ∈ first) :
    ∃ y, Entries.get? second entry.1 = some y ∧ R entry.2 y := by
  have hrelated := h.get? entry.1
  rw [get?_of_mem h.nodup hentry] at hrelated
  exact exists_right_of_rel hrelated

end Matched

/-- What comes from matching dictionaries entry by entry matches again. -/
theorem Matched.results {S : γ → δ → Prop} {P : String × α → String × γ → Prop}
    {Q : String × β → String × δ → Prop} (hP : ∀ x r, P x r → x.1 = r.1)
    (hQ : ∀ y s, Q y s → y.1 = s.1) (h : Matched R first second) {results : Entries γ}
    {results' : Entries δ} (hresults : List.Forall₂ P first results)
    (hresults' : List.Forall₂ Q second results')
    (hstep : ∀ key x y r s, R x y → P (key, x) (key, r) → Q (key, y) (key, s) → S r s) :
    Matched S results results' := by
  have hkeys := keys_of_forall₂ hP hresults
  have hkeys' := keys_of_forall₂ hQ hresults'
  refine ⟨hkeys ▸ h.nodup, hkeys ▸ hkeys' ▸ h.perm, fun key r s hr hs => ?_⟩
  obtain ⟨x, hx, hP⟩ := get?_of_forall₂ hP hresults hr
  obtain ⟨y, hy, hQ⟩ := get?_of_forall₂ hQ hresults' hs
  exact hstep key x y r s (h.related key x y hx hy) hP hQ

/-- After a merge a key leads to its value in the second dictionary if it has one there. -/
theorem get?_merge (first : Entries α) {second : Entries α} (hsecond : (keys second).Nodup)
    (key : String) : get? (merge first second) key = (get? second key).or (get? first key) := by
  induction second generalizing first with
  | nil => rfl
  | cons entry second ih =>
    obtain ⟨name, value⟩ := entry
    obtain ⟨hname, hsecond⟩ := List.nodup_cons.mp hsecond
    have hstep := ih (insert first name value) hsecond
    rw [merge, List.foldl_cons, ← merge, hstep, get?_insert, get?]
    by_cases hkey : name = key
    · subst hkey
      have habsent : get? second name = none := by
        rw [← Option.not_isSome_iff_eq_none, isSome_get?_iff]
        exact hname
      simp [habsent]
    · simp [hkey]

theorem Matched.merge {S : α → α → Prop} {first first' second second' : Entries α}
    (hfirst : Matched S first first') (hsecond : Matched S second second') :
    Matched S (Entries.merge first second) (Entries.merge first' second') := by
  refine .of_get? (nodup_keys_merge hfirst.nodup second)
    (nodup_keys_merge hfirst.nodup_right second') fun key => ?_
  rw [get?_merge first hsecond.nodup, get?_merge first' hsecond.nodup_right]
  exact rel_or (hsecond.get? key) (hfirst.get? key)

end Entries

namespace Json

/-- Equal up to the order in which objects have their keys. No object has a key twice. -/
inductive Reordered : Json → Json → Prop
  | null : Reordered null null
  | bool (value : Bool) : Reordered (bool value) (bool value)
  | number (value : Number) : Reordered (number value) (number value)
  | string (value : String) : Reordered (string value) (string value)
  | array {items items' : List Json} : items.length = items'.length →
      (∀ pair ∈ items.zip items', Reordered pair.1 pair.2) → Reordered (array items) (array items')
  | object {entries entries' : Entries Json} : (Entries.keys entries).Nodup →
      (Entries.keys entries).Perm (Entries.keys entries') →
        (∀ key value value', Entries.get? entries key = some value →
          Entries.get? entries' key = some value' → Reordered value value') →
            Reordered (object entries) (object entries')

variable {x y : Json} {xs ys : List Json} {first second : Entries Json}

theorem Reordered.of_items (h : List.Forall₂ Reordered xs ys) :
    Reordered (.array xs) (.array ys) := by
  obtain ⟨hlength, hpairs⟩ := List.forall₂_iff_zip.mp h
  exact .array hlength fun pair hpair => hpairs hpair

theorem Reordered.of_entries (h : Entries.Matched Reordered first second) :
    Reordered (.object first) (.object second) := .object h.nodup h.perm h.related

theorem Reordered.items (h : Reordered (.array xs) y) :
    ∃ ys, y = .array ys ∧ List.Forall₂ Reordered xs ys := by
  cases h with
  | array hlength hpairs =>
    exact ⟨_, rfl, List.forall₂_iff_zip.mpr ⟨hlength, fun hpair => hpairs _ hpair⟩⟩

theorem Reordered.entries (h : Reordered (.object first) y) :
    ∃ second, y = .object second ∧ Entries.Matched Reordered first second := by
  cases h with
  | object hnodup hperm hrelated => exact ⟨_, rfl, hnodup, hperm, hrelated⟩

theorem Reordered.refl (h : x.KeysDistinct) : Reordered x x := by
  induction h with
  | null => exact .null
  | bool value => exact .bool value
  | number value => exact .number value
  | string value => exact .string value
  | array _ ih => exact .of_items (List.forall₂_same.mpr ih)
  | object hnodup _ ih =>
    refine .object hnodup (.refl _) fun key value value' hvalue hvalue' => ?_
    obtain rfl := Option.some.inj (hvalue.symm.trans hvalue')
    exact ih (key, value) (Entries.mem_of_get? hvalue)

/-- Only values in which no object has a key twice have a reordering. -/
theorem Reordered.keysDistinct (h : Reordered x y) : x.KeysDistinct := by
  induction h with
  | null => exact .null
  | bool value => exact .bool value
  | number value => exact .number value
  | string value => exact .string value
  | array hlength _ ih =>
    have hitems : List.Forall₂ (fun first _ : Json => first.KeysDistinct) _ _ :=
      List.forall₂_iff_zip.mpr ⟨hlength, fun hpair => ih _ hpair⟩
    refine .array fun item hitem => ?_
    obtain ⟨_, _, hdistinct⟩ := exists_right_of_forall₂ hitems hitem
    exact hdistinct
  | object hnodup hperm _ ih =>
    refine .object hnodup fun entry hentry => ?_
    obtain ⟨value', hvalue'⟩ :=
      Entries.mem_keys_iff.mp (hperm.mem_iff.mp (List.mem_map_of_mem hentry))
    exact ih entry.1 entry.2 value' (Entries.get?_of_mem hnodup hentry) hvalue'

/-- The entries of an object in another order. -/
theorem Reordered.of_perm (h : (Json.object first).KeysDistinct) (hperm : first.Perm second) :
    Reordered (.object first) (.object second) := by
  obtain ⟨hnodup, hvalues⟩ := h.entries
  have hkeys : (Entries.keys first).Perm (Entries.keys second) := hperm.map Prod.fst
  refine .object hnodup hkeys fun key value value' hvalue hvalue' => ?_
  have hmem := Entries.mem_of_get? hvalue
  have hsame := Entries.get?_of_mem (hkeys.nodup_iff.mp hnodup) (hperm.mem_iff.mp hmem)
  obtain rfl := Option.some.inj (hsame.symm.trans hvalue')
  exact .refl (hvalues _ hmem)

theorem Reordered.symm (h : Reordered x y) : Reordered y x := by
  induction h with
  | null => exact .null
  | bool value => exact .bool value
  | number value => exact .number value
  | string value => exact .string value
  | array hlength _ ih =>
    exact .of_items (List.forall₂_iff_zip.mpr ⟨hlength, fun hpair => ih _ hpair⟩).flip
  | object hnodup hperm _ ih =>
    exact .object (hperm.nodup_iff.mp hnodup) hperm.symm
      fun key value value' hvalue hvalue' => ih key value' value hvalue' hvalue

/-- Absence is a reordering of absence only. -/
theorem reordered_symm {input input' : Option Json} (h : Option.Rel Reordered input input') :
    Option.Rel Reordered input' input := by
  cases h with
  | none => exact .none
  | some hvalue => exact .some hvalue.symm

theorem Reordered.kind_eq (h : Reordered x y) : Kind.of (some x) = Kind.of (some y) := by
  cases h <;> rfl

theorem reordered_kind_eq {input input' : Option Json} (h : Option.Rel Reordered input input') :
    Kind.of input = Kind.of input' := by
  cases h with
  | none => rfl
  | some hvalue => exact hvalue.kind_eq

/-- One step leads to the same place, or to nothing from both. -/
theorem Reordered.step (h : Reordered x y) (segment : Segment) :
    Option.Rel Reordered (Path.step x segment) (Path.step y segment) := by
  cases segment with
  | field name =>
    cases h with
    | object hnodup hperm hrelated =>
      exact Entries.Matched.get? ⟨hnodup, hperm, hrelated⟩ name
    | _ => exact .none
  | index position =>
    cases h with
    | array hlength hpairs =>
      have hitems := List.forall₂_iff_zip.mpr ⟨hlength, fun hpair => hpairs _ hpair⟩
      exact rel_getElem?_of_forall₂ hitems position
    | _ => exact .none

/-- Whatever a value is equivalent to, another one is as well. -/
def Covers (x y : Json) : Prop := ∀ other, equivalent x other → equivalent y other

theorem equalItemsBy_of_covers (h : List.Forall₂ Covers xs ys) {others : List Json}
    (hequal : equalItemsBy Number.agrees xs others) : equalItemsBy Number.agrees ys others := by
  induction h generalizing others with
  | nil => exact hequal
  | cons hfirst _ ih =>
    cases others with
    | nil => exact hequal
    | cons other others =>
      rw [equalItemsBy, Bool.and_eq_true] at hequal ⊢
      exact ⟨hfirst other hequal.1, ih hequal.2⟩

theorem coveredBy_of_covers (h : Entries.Matched Covers first second) {others : Entries Json}
    (hcovered : coveredBy Number.agrees first others) :
    coveredBy Number.agrees second others := by
  rw [coveredBy_iff] at hcovered ⊢
  intro entry hentry
  obtain ⟨value, hvalue, hcovers⟩ := h.flip.exists_right hentry
  obtain ⟨other, hother, hequal⟩ := hcovered _ (Entries.mem_of_get? hvalue)
  exact ⟨other, hother, hcovers other hequal⟩

theorem Reordered.covers (h : Reordered x y) : Covers x y := by
  induction h with
  | null | bool | number | string => exact fun _ hequal => hequal
  | array hlength _ ih =>
    intro other hequal
    cases other with
    | array others =>
      exact equalItemsBy_of_covers (List.forall₂_iff_zip.mpr ⟨hlength, fun hpair => ih _ hpair⟩)
        hequal
    | _ => cases hequal
  | object hnodup hperm _ ih =>
    intro other hequal
    have hmatched : Entries.Matched Covers _ _ := ⟨hnodup, hperm, ih⟩
    cases other with
    | object others =>
      unfold equivalent equalBy at hequal ⊢
      rw [Bool.and_eq_true] at hequal ⊢
      exact ⟨hmatched.length_eq ▸ hequal.1, coveredBy_of_covers hmatched hequal.2⟩
    | _ => cases hequal

/-- What a value is equivalent to does not depend on the order of its keys. -/
theorem Reordered.equivalent_iff (h : Reordered x y) (other : Json) :
    equivalent x other ↔ equivalent y other := ⟨h.covers other, h.symm.covers other⟩

end Json

namespace Output

/-- Equal up to the order in which dictionaries and the objects in an output have their
keys. None has a key twice. -/
inductive Reordered : Output → Output → Prop
  | undefined : Reordered undefined undefined
  | json {value value' : Json} : Json.Reordered value value' → Reordered (json value) (json value')
  | float (value : Float64) : Reordered (float value) (float value)
  | present {output output' : Output} : Reordered output output' →
      Reordered (present output) (present output')
  | list {items items' : List Output} : items.length = items'.length →
      (∀ pair ∈ items.zip items', Reordered pair.1 pair.2) → Reordered (list items) (list items')
  | dictionary {entries entries' : Entries Output} : (Entries.keys entries).Nodup →
      (Entries.keys entries).Perm (Entries.keys entries') →
        (∀ key output output', Entries.get? entries key = some output →
          Entries.get? entries' key = some output' → Reordered output output') →
            Reordered (dictionary entries) (dictionary entries')

/-- No dictionary and no object in an output has a key twice. -/
def KeysDistinct (output : Output) : Prop := output.Reordered output

variable {outputs outputs' : List Output} {results results' : Entries Output}

theorem Reordered.of_items (h : List.Forall₂ Reordered outputs outputs') :
    Reordered (.list outputs) (.list outputs') := by
  obtain ⟨hlength, hpairs⟩ := List.forall₂_iff_zip.mp h
  exact .list hlength fun pair hpair => hpairs hpair

theorem reordered_ofOption {input input' : Option Json}
    (h : Option.Rel Json.Reordered input input') :
    (ofOption input).Reordered (ofOption input') := by
  cases h with
  | none => exact .undefined
  | some hvalue => exact .json hvalue

theorem matched_entriesJson (h : Entries.Matched
    (fun output output' => Option.Rel Json.Reordered output.toJson? output'.toJson?)
      results results') :
    Entries.Matched Json.Reordered (entriesJson results) (entriesJson results') := by
  refine .of_get? (nodup_keys_entriesJson h.nodup) (nodup_keys_entriesJson h.nodup_right)
    fun key => ?_
  rw [get?_entriesJson h.nodup, get?_entriesJson h.nodup_right]
  exact rel_bind (h.get? key) fun _ _ hrelated => hrelated

theorem reordered_orNull {value value' : Option Json} (h : Option.Rel Json.Reordered value value') :
    (Json.orNull value).Reordered (Json.orNull value') := by
  cases h with
  | none => exact .null
  | some hvalue => exact hvalue

theorem reordered_itemsJson (h : List.Forall₂
    (fun output output' => Option.Rel Json.Reordered output.toJson? output'.toJson?)
      outputs outputs') :
    List.Forall₂ Json.Reordered (itemsJson outputs) (itemsJson outputs') := by
  induction h with
  | nil => exact .nil
  | cons hfirst _ ih => exact .cons (reordered_orNull hfirst) ih

/-- The JSON values of reorderings are reorderings. -/
theorem Reordered.toJson? {output output' : Output} (h : output.Reordered output') :
    Option.Rel Json.Reordered output.toJson? output'.toJson? := by
  induction h with
  | undefined => exact .none
  | json hvalue => exact .some hvalue
  | float value => exact .some (.refl (by cases value <;> constructor))
  | present _ ih => exact ih
  | list hlength _ ih =>
    exact .some (.of_items (reordered_itemsJson
      (List.forall₂_iff_zip.mpr ⟨hlength, fun hpair => ih _ hpair⟩)))
  | dictionary hnodup hperm _ ih =>
    exact .some (.of_entries (matched_entriesJson ⟨hnodup, hperm, ih⟩))

theorem Reordered.string?_eq {output output' : Output} (h : output.Reordered output') :
    output.string? = output'.string? := by
  have hjson := h.toJson?
  unfold string?
  generalize output.toJson? = value, output'.toJson? = value' at hjson ⊢
  cases hjson with
  | none => rfl
  | some hvalue => cases hvalue <;> rfl

/-- What is merged of outputs, if anything, is a reordering too. -/
theorem Reordered.entries {output output' : Output} (h : output.Reordered output') :
    Entries.Matched Json.Reordered output.entries output'.entries := by
  have hjson := h.toJson?
  unfold Output.entries
  generalize output.toJson? = value, output'.toJson? = value' at hjson ⊢
  cases hjson with
  | none => exact .nil
  | some hvalue =>
    cases hvalue with
    | object hnodup hperm hrelated => exact ⟨hnodup, hperm, hrelated⟩
    | _ => exact .nil

theorem reordered_merged (h : List.Forall₂ Reordered outputs outputs')
    {merged merged' : Entries Json} (hmerged : Entries.Matched Json.Reordered merged merged') :
    Entries.Matched Json.Reordered
      (outputs.foldl (fun merged output => Entries.merge merged output.entries) merged)
      (outputs'.foldl (fun merged output => Entries.merge merged output.entries) merged') := by
  induction h generalizing merged merged' with
  | nil => exact hmerged
  | cons hfirst _ ih => exact ih (hmerged.merge hfirst.entries)

end Output

end JsonValidators
