import JsonValidators.Kind
import JsonValidators.Proofs.Equality
import JsonValidators.Proofs.Outputs
import Mathlib.Data.List.Perm.Subperm

/-!
Projections of values. Of objects some keys may be left out, at any depth; all else
stays as it is. A projection of a value is one of all values that are equivalent to it, and an
output of lists or dictionaries is a projection if all that it is made of is.
-/

namespace JsonValidators

namespace Json

/-- The first value is a projection of the second. Scalars are the same up to the kind of
number, arrays project item by item, and every key of an object is a key of the other
with a projection of the value there. -/
inductive Projects : Json → Json → Prop
  | scalar {output input : Json} : output.asArray? = none → output.asObject? = none →
      Kind.of (some output) = Kind.of (some input) → equivalent output input →
        Projects output input
  | array {outputs inputs : List Json} : List.Forall₂ Projects outputs inputs →
      Projects (array outputs) (array inputs)
  | object {outputs inputs : Entries Json} :
      (∀ entry ∈ outputs, entry.1 ∈ Entries.keys inputs) →
        (∀ entry ∈ outputs, ∀ value, Entries.get? inputs entry.1 = some value →
          Projects entry.2 value) → Projects (object outputs) (object inputs)

/-- Entries that project what their keys lead to. -/
theorem Projects.of_get? {outputs inputs : Entries Json}
    (h : ∀ entry ∈ outputs, ∃ value, Entries.get? inputs entry.1 = some value ∧
      Projects entry.2 value) : Projects (.object outputs) (.object inputs) := by
  apply object
  · intro entry hentry
    obtain ⟨value, hvalue, _⟩ := h entry hentry
    exact (Entries.isSome_get?_iff inputs entry.1).mp (Option.isSome_of_eq_some hvalue)
  · intro entry hentry value hvalue
    obtain ⟨value', hvalue', hprojects⟩ := h entry hentry
    obtain rfl := Option.some.inj (hvalue.symm.trans hvalue')
    exact hprojects

theorem Projects.get? {outputs inputs : Entries Json}
    (h : Projects (.object outputs) (.object inputs)) {entry : String × Json}
    (hentry : entry ∈ outputs) :
    ∃ value, Entries.get? inputs entry.1 = some value ∧ Projects entry.2 value := by
  cases h with
  | scalar _ hobject => cases hobject
  | object hkeys hvalues =>
    have hfound := (Entries.isSome_get?_iff inputs entry.1).mpr (hkeys entry hentry)
    obtain ⟨value, hvalue⟩ := Option.isSome_iff_exists.mp hfound
    exact ⟨value, hvalue, hvalues entry hentry value hvalue⟩

/-- What projects a value of some kind is of that kind. -/
theorem Projects.kind_eq {output input : Json} (h : Projects output input) :
    Kind.of (some output) = Kind.of (some input) := by
  cases h with
  | scalar _ _ hkind => exact hkind
  | array | object => rfl

theorem Projects.of_number {output : Json} {value : Number} (h : Projects output (.number value)) :
    ∃ found, output = .number found ∧ found.agrees value := by
  cases h with
  | scalar _ _ hkind hequivalent =>
    cases output with
    | number found => exact ⟨found, rfl, hequivalent⟩
    | _ => cases hkind

theorem Projects.of_array {output : Json} {inputs : List Json}
    (h : Projects output (.array inputs)) :
    ∃ outputs, output = .array outputs ∧ List.Forall₂ Projects outputs inputs := by
  obtain ⟨outputs, houtputs⟩ := Kind.exists_array h.kind_eq
  obtain rfl := Option.some.inj houtputs
  cases h with
  | scalar harray => cases harray
  | array hitems => exact ⟨outputs, rfl, hitems⟩

theorem Projects.exists_object {output : Json} {inputs : Entries Json}
    (h : Projects output (.object inputs)) : ∃ outputs, output = .object outputs := by
  obtain ⟨outputs, houtputs⟩ := Kind.exists_object h.kind_eq
  exact ⟨outputs, Option.some.inj houtputs⟩

/-- Items that projections carry over to, one by one. -/
theorem Projects.of_items {outputs items others : List Json}
    (h : List.Forall₂ Projects outputs others)
    (hitems : List.Forall₂ (fun item other => ∀ output, Projects output other →
      Projects output item) items others) : List.Forall₂ Projects outputs items := by
  induction hitems generalizing outputs with
  | nil => exact h
  | cons hfirst _ ih =>
    cases h with
    | cons hown hrest => exact .cons (hfirst _ hown) (ih hrest)

theorem Projects.of_object {outputs : Entries Json} {input : Json}
    (h : Projects (.object outputs) input) : ∃ inputs, input = .object inputs := by
  cases h with
  | scalar _ hobject => cases hobject
  | object => exact ⟨_, rfl⟩

theorem Projects.refl {value : Json} (h : value.KeysDistinct) : Projects value value := by
  induction h with
  | null => exact .scalar rfl rfl rfl rfl
  | bool value => exact .scalar rfl rfl rfl (equivalent_self (.bool value))
  | number value => exact .scalar rfl rfl rfl (equivalent_self (.number value))
  | string value => exact .scalar rfl rfl rfl (equivalent_self (.string value))
  | array _ ih => exact .array (List.forall₂_same.mpr ih)
  | object hnodup _ ih =>
    exact .of_get? fun entry hentry => ⟨entry.2, Entries.get?_of_mem hnodup hentry, ih entry hentry⟩

/-- If the keys of one object are found in another of the same size, the other has no
further keys and none twice. -/
theorem keys_perm_of_covered {xs ys : Entries Json} (hnodup : (Entries.keys xs).Nodup)
    (hlength : xs.length = ys.length) (hkeys : ∀ key ∈ Entries.keys xs, key ∈ Entries.keys ys) :
    (Entries.keys xs).Perm (Entries.keys ys) := by
  have hsub : (Entries.keys xs).Subperm (Entries.keys ys) := List.subperm_of_subset hnodup hkeys
  apply hsub.perm_of_length_le
  simp only [Entries.keys, List.length_map]
  omega

/-- What a key of the second of two equivalent objects leads to is equivalent to an entry of the
first. -/
theorem exists_entry_of_equivalent {entries others : Entries Json}
    (hnodup : (Entries.keys entries).Nodup) (h : equivalent (.object entries) (.object others))
    {key : String} {other : Json} (hother : Entries.get? others key = some other) :
    ∃ value, (key, value) ∈ entries ∧ equivalent value other := by
  unfold equivalent equalBy at h
  obtain ⟨hlength, hcovered⟩ := Bool.and_eq_true_iff.mp h
  have hlength : entries.length = others.length := by simpa using hlength
  have hcovered := coveredBy_iff.mp hcovered
  have hkeys : ∀ key ∈ Entries.keys entries, key ∈ Entries.keys others := by
    intro key hkey
    obtain ⟨entry, hentry, rfl⟩ := List.mem_map.mp hkey
    obtain ⟨found, hfound, _⟩ := hcovered entry hentry
    exact (Entries.isSome_get?_iff others entry.1).mp (Option.isSome_of_eq_some hfound)
  have hkey : key ∈ Entries.keys entries :=
    (keys_perm_of_covered hnodup hlength hkeys).mem_iff.mpr
      ((Entries.isSome_get?_iff others key).mp (Option.isSome_of_eq_some hother))
  obtain ⟨⟨_, value⟩, hentry, rfl⟩ := List.mem_map.mp hkey
  obtain ⟨found, hfound, hequal⟩ := hcovered _ hentry
  obtain rfl := Option.some.inj (hother.symm.trans hfound)
  exact ⟨value, hentry, hequal⟩

/-- A projection of a constant is one of every value that is equivalent to the constant. -/
theorem Projects.of_equivalent {output constant value : Json} (h : Projects output constant)
    (hdistinct : value.KeysDistinct) (hequivalent : equivalent value constant) :
    Projects output value := by
  induction hdistinct generalizing output constant with
  | null =>
    cases constant with
    | null => exact h
    | _ => cases hequivalent
  | bool value =>
    cases constant with
    | bool other =>
      obtain rfl : value = other := by simpa [equivalent, equalBy] using hequivalent
      exact h
    | _ => cases hequivalent
  | number value =>
    cases constant with
    | number other =>
      obtain ⟨found, rfl, hfound⟩ := h.of_number
      exact .scalar rfl rfl rfl (Number.agrees_of_agrees hfound hequivalent)
    | _ => cases hequivalent
  | string value =>
    cases constant with
    | string other =>
      obtain rfl : value = other := by simpa [equivalent, equalBy] using hequivalent
      exact h
    | _ => cases hequivalent
  | @array items _ ih =>
    cases constant with
    | array others =>
      obtain ⟨outputs, rfl, houtputs⟩ := h.of_array
      refine .array (Projects.of_items houtputs ?_)
      exact forall₂_imp_of_mem (equalItemsBy_iff.mp hequivalent) fun item hitem other _ hequal
        output houtput => ih item hitem houtput hequal
    | _ => cases hequivalent
  | @object entries hnodup _ ih =>
    cases constant with
    | object others =>
      obtain ⟨outputs, rfl⟩ := h.exists_object
      refine .of_get? fun own hown => ?_
      obtain ⟨other, hother, hprojects⟩ := h.get? hown
      obtain ⟨value, hentry, hequal⟩ := exists_entry_of_equivalent hnodup hequivalent hother
      exact ⟨value, Entries.get?_of_mem hnodup hentry, ih _ hentry hprojects hequal⟩
    | _ => cases hequivalent

end Json

namespace Output

/-- An output projects an input if it has a JSON value just as the input has one, and
that is a projection. -/
def Projects (output : Output) (input : Option Json) : Prop :=
  Option.Rel Json.Projects output.toJson? input

theorem projects_ofOption {input : Option Json} (h : ∀ value ∈ input, value.KeysDistinct) :
    (ofOption input).Projects input := by
  cases input with
  | none => exact .none
  | some value => exact .some (.refl (h value rfl))

theorem projects_list {outputs : List Output} {values : List Json}
    (h : List.Forall₂ (fun value output => output.Projects (some value)) values outputs) :
    (list outputs).Projects (some (.array values)) := by
  refine .some (.array ?_)
  induction h with
  | nil => exact .nil
  | @cons value output values outputs hfirst _ ih =>
    obtain ⟨item, hitem, hprojects⟩ := exists_left_of_rel hfirst
    rw [itemsJson, hitem]
    exact .cons hprojects ih

theorem projects_dictionary {results : List (String × Output)} {object : Entries Json}
    (h : ∀ result ∈ results, result.2.Projects (Entries.get? object result.1)) :
    (dictionary results).Projects (some (.object object)) := by
  refine .some (.of_get? fun entry hentry => ?_)
  obtain ⟨output, houtput, hjson⟩ := mem_entriesJson.mp hentry
  have hprojects := h _ houtput
  unfold Projects at hprojects
  rw [hjson] at hprojects
  exact exists_right_of_rel hprojects

end Output

end JsonValidators
