import JsonValidators.Json.Equality

/-!
Values in which no object has a key twice, which can be tested. On these the equality
that constants are checked with is reflexive: every entry of an object is what its key
leads to.
-/

namespace JsonValidators

/-- An entry is what its key leads to if no key stands twice. -/
theorem Entries.get?_of_mem {α : Type} {entries : Entries α} (hnodup : (keys entries).Nodup)
    {key : String} {value : α} (h : (key, value) ∈ entries) : get? entries key = some value := by
  induction entries with
  | nil => exact absurd h List.not_mem_nil
  | cons entry rest ih =>
    obtain ⟨other, first⟩ := entry
    obtain ⟨hfirst, hrest⟩ := List.nodup_cons.mp hnodup
    rcases List.mem_cons.mp h with heq | hmem
    · cases heq
      simp [get?]
    · have hne : other ≠ key := by
        rintro rfl
        exact hfirst (List.mem_map.mpr ⟨(other, value), hmem, rfl⟩)
      simp [get?, hne, ih hrest hmem]

namespace Json

/-- No object in a value has a key twice. -/
inductive KeysDistinct : Json → Prop
  | null : KeysDistinct null
  | bool (value : Bool) : KeysDistinct (bool value)
  | number (value : Number) : KeysDistinct (number value)
  | string (value : String) : KeysDistinct (string value)
  | array {items : List Json} : (∀ item ∈ items, KeysDistinct item) → KeysDistinct (array items)
  | object {entries : List (String × Json)} :
      (Entries.keys entries).Nodup → (∀ entry ∈ entries, KeysDistinct entry.2) →
        KeysDistinct (object entries)

theorem KeysDistinct.items {items : List Json} (h : (Json.array items).KeysDistinct) :
    ∀ item ∈ items, item.KeysDistinct := by
  cases h with
  | array hitems => exact hitems

theorem KeysDistinct.entries {entries : Entries Json} (h : (Json.object entries).KeysDistinct) :
    (Entries.keys entries).Nodup ∧ ∀ entry ∈ entries, entry.2.KeysDistinct := by
  cases h with
  | object hnodup hentries => exact ⟨hnodup, hentries⟩

mutual

/-- The test that decides whether no object in a value has a key twice. -/
def hasDistinctKeys : Json → Bool
  | array items => itemsHaveDistinctKeys items
  | object entries => decide (Entries.keys entries).Nodup && entriesHaveDistinctKeys entries
  | _ => true

def itemsHaveDistinctKeys : List Json → Bool
  | [] => true
  | item :: items => hasDistinctKeys item && itemsHaveDistinctKeys items

def entriesHaveDistinctKeys : List (String × Json) → Bool
  | [] => true
  | (_, value) :: entries => hasDistinctKeys value && entriesHaveDistinctKeys entries

end

mutual

theorem hasDistinctKeys_iff : ∀ value : Json, hasDistinctKeys value ↔ value.KeysDistinct
  | null => iff_of_true rfl .null
  | bool value => iff_of_true rfl (.bool value)
  | number value => iff_of_true rfl (.number value)
  | string value => iff_of_true rfl (.string value)
  | array items => by
    rw [hasDistinctKeys, itemsHaveDistinctKeys_iff items]
    exact ⟨.array, KeysDistinct.items⟩
  | object entries => by
    rw [hasDistinctKeys, Bool.and_eq_true, decide_eq_true_iff, entriesHaveDistinctKeys_iff entries]
    exact ⟨fun h => .object h.1 h.2, KeysDistinct.entries⟩

theorem itemsHaveDistinctKeys_iff :
    ∀ items : List Json, itemsHaveDistinctKeys items ↔ ∀ item ∈ items, item.KeysDistinct
  | [] => iff_of_true rfl (by simp)
  | item :: items => by
    rw [itemsHaveDistinctKeys, Bool.and_eq_true, hasDistinctKeys_iff item,
      itemsHaveDistinctKeys_iff items, List.forall_mem_cons]

theorem entriesHaveDistinctKeys_iff : ∀ entries : List (String × Json),
    entriesHaveDistinctKeys entries ↔ ∀ entry ∈ entries, entry.2.KeysDistinct
  | [] => iff_of_true rfl (by simp)
  | (key, value) :: entries => by
    rw [entriesHaveDistinctKeys, Bool.and_eq_true, hasDistinctKeys_iff value,
      entriesHaveDistinctKeys_iff entries, List.forall_mem_cons]

end

instance (value : Json) : Decidable value.KeysDistinct :=
  decidable_of_iff _ (hasDistinctKeys_iff value)

theorem equalItemsBy_self {sameNumber : Number → Number → Bool} {items : List Json}
    (h : ∀ item ∈ items, equalBy sameNumber item item) : equalItemsBy sameNumber items items := by
  induction items with
  | nil => rfl
  | cons item items ih =>
    obtain ⟨hitem, hitems⟩ := List.forall_mem_cons.mp h
    simp [equalItemsBy, hitem, ih hitems]

theorem coveredBy_of_get? {sameNumber : Number → Number → Bool}
    {part whole : List (String × Json)}
    (hget : ∀ entry ∈ part, Entries.get? whole entry.1 = some entry.2)
    (h : ∀ entry ∈ part, equalBy sameNumber entry.2 entry.2) :
    coveredBy sameNumber part whole := by
  induction part with
  | nil => rfl
  | cons entry part ih =>
    obtain ⟨hentry, hpart⟩ := List.forall_mem_cons.mp h
    obtain ⟨hfound, hrest⟩ := List.forall_mem_cons.mp hget
    simp [coveredBy, hfound, hentry, ih hrest hpart]

theorem equalBy_self {sameNumber : Number → Number → Bool}
    (hnumber : ∀ value, sameNumber value value) {value : Json} (h : value.KeysDistinct) :
    equalBy sameNumber value value := by
  induction h with
  | null => rfl
  | bool value => simp [equalBy]
  | number value => simpa [equalBy] using hnumber value
  | string value => simp [equalBy]
  | array _ ih => simpa [equalBy] using equalItemsBy_self ih
  | object hnodup _ ih =>
    have hcovered := coveredBy_of_get? (fun entry hentry => Entries.get?_of_mem hnodup hentry) ih
    simpa [equalBy] using hcovered

theorem equivalent_self {value : Json} (h : value.KeysDistinct) : equivalent value value :=
  equalBy_self (fun number => by simp [Number.agrees, Binary64.numericEq]) h

end Json

end JsonValidators
