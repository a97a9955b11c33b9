import JsonValidators.Output
import JsonValidators.Proofs.Declared
import JsonValidators.Proofs.DistinctKeys
import JsonValidators.Proofs.Runs

/-!
What outputs come to as JSON. The entries of a dictionary keep their order, and those
that come to nothing are left out; so a key leads to the JSON value of what it led to.
-/

namespace JsonValidators

namespace Entries

variable {α β : Type} {first : Entries α}

/-- Results that come from the entries of a dictionary one by one, under their keys. -/
theorem keys_of_forall₂ {P : String × α → String × β → Prop} (hP : ∀ x r, P x r → x.1 = r.1)
    {results : Entries β} (h : List.Forall₂ P first results) : keys results = keys first := by
  induction h with
  | nil => rfl
  | @cons x r first results hx _ ih =>
    obtain ⟨name, value⟩ := x
    obtain ⟨name', output⟩ := r
    obtain rfl : name = name' := hP _ _ hx
    rw [keys_cons, keys_cons, ih]

theorem get?_of_forall₂ {P : String × α → String × β → Prop} (hP : ∀ x r, P x r → x.1 = r.1)
    {results : Entries β} (h : List.Forall₂ P first results) {key : String} {r : β}
    (hr : get? results key = some r) :
    ∃ x, get? first key = some x ∧ P (key, x) (key, r) := by
  induction h with
  | nil => exact absurd hr nofun
  | @cons x result first results hx _ ih =>
    obtain ⟨name, value⟩ := x
    obtain ⟨name', output⟩ := result
    obtain rfl : name = name' := hP _ _ hx
    by_cases hkey : name = key
    · subst hkey
      rw [get?, if_pos rfl] at hr ⊢
      obtain rfl := Option.some.inj hr
      exact ⟨value, rfl, hx⟩
    · rw [get?, if_neg hkey] at hr ⊢
      exact ih hr

end Entries

namespace Literal

/-- The constant is produced as a value that it accepts. -/
def AcceptsItself (literal : Literal) : Prop :=
  ∃ value, literal.toOutput.toJson? = some value ∧ Json.equivalent value literal.toJson

theorem acceptsItself_json {value : Json} (h : value.KeysDistinct) : (json value).AcceptsItself :=
  ⟨value, rfl, Json.equivalent_self h⟩

theorem acceptsItself_float (value : Float64) : (float value).AcceptsItself := by
  have hdistinct : (Json.ofFloat64 value).KeysDistinct := by cases value <;> constructor
  exact ⟨_, rfl, Json.equivalent_self hdistinct⟩

/-- A constant that stands for no value accepts null, which it does not produce. -/
theorem acceptsItself_ofOption {literal? : Option Literal} :
    (ofOption literal?).AcceptsItself ↔ ∃ literal, literal? = some literal ∧
      literal.AcceptsItself := by
  cases literal? with
  | none => exact ⟨fun ⟨_, hvalue, _⟩ => (by cases hvalue), nofun⟩
  | some literal => exact ⟨fun h => ⟨literal, rfl, h⟩, fun ⟨_, hsome, h⟩ => Option.some.inj hsome ▸ h⟩

end Literal

namespace Output

variable {results : Entries Output}

theorem entriesJson_eq_filterMap (results : Entries Output) : entriesJson results =
    results.filterMap fun result => result.2.toJson?.map fun value => (result.1, value) := by
  induction results with
  | nil => rfl
  | cons result results ih =>
    obtain ⟨key, output⟩ := result
    rw [entriesJson, List.filterMap_cons, ih]
    cases output.toJson? <;> rfl

/-- What is left out of a dictionary is not in its JSON value. -/
theorem mem_entriesJson {entry : String × Json} : entry ∈ entriesJson results ↔
    ∃ output, (entry.1, output) ∈ results ∧ output.toJson? = some entry.2 := by
  rw [entriesJson_eq_filterMap, List.mem_filterMap]
  constructor
  · rintro ⟨⟨key, output⟩, hmem, hentry⟩
    obtain ⟨value, hjson, rfl⟩ := Option.map_eq_some_iff.mp hentry
    exact ⟨output, hmem, hjson⟩
  · rintro ⟨output, hmem, hjson⟩
    exact ⟨(entry.1, output), hmem, Option.map_eq_some_iff.mpr ⟨entry.2, hjson, rfl⟩⟩

/-- Whatever is left after merging stood in one of the parts. -/
theorem mem_merged {outputs : List Output} {merged : Entries Json} {entry : String × Json}
    (h : entry ∈ outputs.foldl (fun merged output => Entries.merge merged output.entries) merged) :
    entry ∈ merged ∨ ∃ output ∈ outputs, entry ∈ output.entries := by
  induction outputs generalizing merged with
  | nil => exact .inl h
  | cons output outputs ih =>
    rcases ih h with hmerged | ⟨other, hother, hmem⟩
    · rcases Entries.mem_merge hmerged with hbefore | hown
      · exact .inl hbefore
      · exact .inr ⟨output, List.mem_cons_self, hown⟩
    · exact .inr ⟨other, List.mem_cons_of_mem _ hother, hmem⟩

/-- The key of an entry that is left out leads to nothing. -/
theorem get?_entriesJson (h : (Entries.keys results).Nodup) (key : String) :
    Entries.get? (entriesJson results) key = (Entries.get? results key).bind toJson? := by
  induction results with
  | nil => rfl
  | cons result results ih =>
    obtain ⟨name, output⟩ := result
    obtain ⟨hname, hnodup⟩ := List.nodup_cons.mp h
    have hrest := ih hnodup
    by_cases hkey : name = key
    · subst hkey
      have habsent : Entries.get? results name = none := by
        rw [← Option.not_isSome_iff_eq_none, Entries.isSome_get?_iff]
        exact hname
      rw [habsent] at hrest
      cases hjson : output.toJson? <;> simp [entriesJson, Entries.get?, hjson, hrest]
    · cases hjson : output.toJson? <;> simp [entriesJson, Entries.get?, hjson, hkey, hrest]

theorem keys_entriesJson_sublist (results : Entries Output) :
    (Entries.keys (entriesJson results)).Sublist (Entries.keys results) := by
  induction results with
  | nil => exact .slnil
  | cons result results ih =>
    obtain ⟨name, output⟩ := result
    rw [entriesJson]
    split
    · exact ih.cons_cons name
    · exact ih.cons name

theorem nodup_keys_entriesJson (h : (Entries.keys results).Nodup) :
    (Entries.keys (entriesJson results)).Nodup := h.sublist (keys_entriesJson_sublist results)

end Output

end JsonValidators
