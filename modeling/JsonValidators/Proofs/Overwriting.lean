import JsonValidators.Proofs.Reordering

/-!
Values that are stored again later. What a dictionary has under a key does not matter if
the key is stored once more, so two dictionaries that only differ in such values come to
the same in a merge.
-/

namespace JsonValidators

namespace Entries

variable {α : Type}

/-- The second of two values under a key replaces the first. -/
theorem insert_insert (entries : Entries α) (key : String) (first second : α) :
    insert (insert entries key first) key second = insert entries key second := by
  induction entries with
  | nil => simp [insert]
  | cons entry rest ih =>
    obtain ⟨name, value⟩ := entry
    by_cases h : name = key
    · simp [insert, h]
    · simp only [insert, if_neg h, ih]

/-- A key that is present keeps its place, whatever is stored before. -/
theorem insert_comm_of_mem {entries : Entries α} {key other : String} (hmem : key ∈ keys entries)
    (hne : other ≠ key) (value value' : α) :
    insert (insert entries key value) other value' =
      insert (insert entries other value') key value := by
  induction entries with
  | nil => exact absurd hmem List.not_mem_nil
  | cons entry rest ih =>
    obtain ⟨name, old⟩ := entry
    by_cases hkey : name = key
    · have hother : name ≠ other := fun heq => hne (heq.symm.trans hkey)
      have hother' : key ≠ other := hne.symm
      simp [insert, hkey, hother']
    · have hrest : key ∈ keys rest := by
        rcases List.mem_cons.mp hmem with heq | hrest
        · exact absurd heq.symm hkey
        · exact hrest
      by_cases hother : name = other
      · simp [insert, hother, hne]
      · simp [insert, hkey, hother, ih hrest]

theorem merge_cons (entries : Entries α) (entry : String × α) (later : List (String × α)) :
    merge entries (entry :: later) = merge (insert entries entry.1 entry.2) later := rfl

theorem merge_append (entries : Entries α) (first second : List (String × α)) :
    merge entries (first ++ second) = merge (merge entries first) second := List.foldl_append

theorem get?_merge_of_not_mem {later : List (String × α)} {key : String} (h : key ∉ keys later)
    (entries : Entries α) : get? (merge entries later) key = get? entries key := by
  induction later generalizing entries with
  | nil => rfl
  | cons entry later ih =>
    obtain ⟨hname, hlater⟩ := not_or.mp (mt List.mem_cons.mpr h)
    rw [merge_cons, ih hlater, get?_insert, if_neg (Ne.symm hname)]

/-- It does not matter what is stored under a key that is stored again. -/
theorem merge_insert_of_mem {later : List (String × α)} {key : String} (h : key ∈ keys later)
    (entries : Entries α) (value value' : α) :
    merge (insert entries key value) later = merge (insert entries key value') later := by
  induction later generalizing entries with
  | nil => exact absurd h List.not_mem_nil
  | cons entry later ih =>
    obtain ⟨name, last⟩ := entry
    rw [merge_cons, merge_cons]
    by_cases hname : name = key
    · subst hname
      rw [insert_insert, insert_insert]
    · have hlater : key ∈ keys later := by
        rcases List.mem_cons.mp h with heq | hlater
        · exact absurd heq.symm hname
        · exact hlater
      -- Store under the key once more after the other one, where either value may stand.
      have hmem : key ∈ keys (insert entries key value) := mem_keys_insert.mpr (.inl rfl)
      have hagain : ∀ again, insert (insert (insert entries key value) name last) key again =
          insert (insert entries key again) name last := by
        intro again
        rw [← insert_comm_of_mem hmem hname, insert_insert]
      rw [← hagain value, ← hagain value']
      exact ih hlater _

/-- The same entries, but for the values under keys that are overwritten. -/
def SameUnless (overwritten : List String) (first second : List (String × α)) : Prop :=
  List.Forall₂ (fun entry entry' =>
    entry.1 = entry'.1 ∧ (entry.1 ∈ overwritten ∨ entry.2 = entry'.2)) first second

theorem SameUnless.refl (overwritten : List String) (entries : List (String × α)) :
    SameUnless overwritten entries entries :=
  List.forall₂_same.mpr fun _ _ => ⟨rfl, .inr rfl⟩

/-- Values that are overwritten leave no trace in a merge. -/
theorem SameUnless.merge_eq {first second later : List (String × α)}
    (h : SameUnless (keys later) first second) (entries : Entries α) :
    merge (merge entries first) later = merge (merge entries second) later := by
  induction h generalizing entries with
  | nil => rfl
  | @cons entry entry' first second hentry _ ih =>
    obtain ⟨name, value⟩ := entry
    obtain ⟨name', value'⟩ := entry'
    obtain ⟨rfl, hvalue⟩ := hentry
    have hstep := ih (insert entries name value')
    rcases hvalue with hlater | rfl
    · have hmem : name ∈ keys (first ++ later) := by
        rw [keys, List.map_append]
        exact List.mem_append_right _ hlater
      have hforget := merge_insert_of_mem hmem entries value value'
      rw [merge_append, merge_append] at hforget
      exact hforget.trans hstep
    · exact hstep

end Entries

namespace Output

/-- The entries of outputs in one object, later values in place of earlier ones. -/
def merged (outputs : List Output) : Entries Json := Entries.ofList (outputs.flatMap entries)

theorem foldl_merge_eq (outputs : List Output) (start : Entries Json) :
    outputs.foldl (fun merged output => Entries.merge merged output.entries) start =
      Entries.merge start (outputs.flatMap entries) := by
  induction outputs generalizing start with
  | nil => rfl
  | cons output outputs ih =>
    rw [List.foldl_cons, ih, List.flatMap_cons, Entries.merge_append]

/-- What an object leads to where no other of the outputs has the key. -/
theorem get?_merged {before after : List Output} {output : Output} {key : String}
    (hnodup : (Entries.keys output.entries).Nodup)
    (hbefore : ∀ other ∈ before, key ∉ Entries.keys other.entries)
    (hafter : ∀ other ∈ after, key ∉ Entries.keys other.entries) :
    Entries.get? (merged (before ++ output :: after)) key = Entries.get? output.entries key := by
  have hkeys : ∀ outputs : List Output, (∀ other ∈ outputs, key ∉ Entries.keys other.entries) →
      key ∉ Entries.keys (outputs.flatMap entries) := by
    intro outputs houtputs hmem
    obtain ⟨entry, hentry, hkey⟩ := List.mem_map.mp hmem
    obtain ⟨other, hother, hown⟩ := List.mem_flatMap.mp hentry
    exact houtputs other hother (List.mem_map.mpr ⟨entry, hown, hkey⟩)
  rw [merged, List.flatMap_append, List.flatMap_cons, Entries.ofList, Entries.merge_append,
    Entries.merge_append, Entries.get?_merge_of_not_mem (hkeys after hafter),
    Entries.get?_merge _ hnodup, Entries.get?_merge_of_not_mem (hkeys before hbefore)]
  exact Option.or_none

end Output

end JsonValidators
