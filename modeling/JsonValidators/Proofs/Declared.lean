import JsonValidators.Entries

/-!
Dictionaries that are made from lists of pairs. Changing the values commutes with
making the dictionary, every entry is one of the pairs, and no key stands twice.
-/

namespace JsonValidators.Entries

variable {α β : Type}

theorem keys_map (f : α → β) (entries : Entries α) :
    keys (entries.map fun entry => (entry.1, f entry.2)) = keys entries := by
  simp [keys, Function.comp_def]

theorem insert_map (f : α → β) (entries : Entries α) (key : String) (value : α) :
    insert (entries.map fun entry => (entry.1, f entry.2)) key (f value) =
      (insert entries key value).map fun entry => (entry.1, f entry.2) := by
  induction entries with
  | nil => rfl
  | cons entry rest ih =>
    obtain ⟨k, v⟩ := entry
    simp only [List.map_cons, insert]
    split
    · rfl
    · rw [ih, List.map_cons]

theorem merge_map (f : α → β) (first : Entries α) (second : List (String × α)) :
    merge (first.map fun entry => (entry.1, f entry.2))
        (second.map fun entry => (entry.1, f entry.2)) =
      (merge first second).map fun entry => (entry.1, f entry.2) := by
  induction second generalizing first with
  | nil => rfl
  | cons entry rest ih =>
    have hstep := ih (insert first entry.1 entry.2)
    rw [← insert_map] at hstep
    exact hstep

theorem ofList_map (f : α → β) (pairs : List (String × α)) :
    ofList (pairs.map fun entry => (entry.1, f entry.2)) =
      (ofList pairs).map fun entry => (entry.1, f entry.2) := merge_map f [] pairs

theorem mem_insert {entries : Entries α} {key : String} {value : α} {entry : String × α}
    (h : entry ∈ insert entries key value) : entry = (key, value) ∨ entry ∈ entries := by
  induction entries with
  | nil => exact .inl (List.mem_singleton.mp h)
  | cons first rest ih =>
    obtain ⟨k, v⟩ := first
    rw [insert] at h
    split at h
    · next heq =>
      subst heq
      rcases List.mem_cons.mp h with hnew | hold
      · exact .inl hnew
      · exact .inr (List.mem_cons_of_mem _ hold)
    · rcases List.mem_cons.mp h with hfirst | hrest
      · exact .inr (hfirst ▸ List.mem_cons_self)
      · rcases ih hrest with hnew | hold
        · exact .inl hnew
        · exact .inr (List.mem_cons_of_mem _ hold)

theorem mem_merge {first : Entries α} {second : List (String × α)} {entry : String × α}
    (h : entry ∈ merge first second) : entry ∈ first ∨ entry ∈ second := by
  induction second generalizing first with
  | nil => exact .inl h
  | cons pair rest ih =>
    rcases ih h with hinsert | hrest
    · rcases mem_insert hinsert with rfl | hfirst
      · exact .inr List.mem_cons_self
      · exact .inl hfirst
    · exact .inr (List.mem_cons_of_mem _ hrest)

theorem mem_ofList {pairs : List (String × α)} {entry : String × α} (h : entry ∈ ofList pairs) :
    entry ∈ pairs := by
  rcases mem_merge h with hnil | hpairs
  · exact absurd hnil List.not_mem_nil
  · exact hpairs

theorem mem_keys_insert {entries : Entries α} {key other : String} {value : α} :
    other ∈ keys (insert entries key value) ↔ other = key ∨ other ∈ keys entries := by
  rw [keys_insert]
  split
  · next hold =>
    constructor
    · exact .inr
    · rintro (rfl | hmem)
      · exact hold
      · exact hmem
  · rw [List.mem_append, List.mem_singleton, or_comm]

theorem mem_keys_merge {first : Entries α} {second : List (String × α)} {key : String} :
    key ∈ keys (merge first second) ↔ key ∈ keys first ∨ key ∈ keys second := by
  induction second generalizing first with
  | nil => simp [merge]
  | cons pair rest ih =>
    have hstep := @ih (insert first pair.1 pair.2)
    rw [mem_keys_insert] at hstep
    rw [merge, List.foldl_cons, keys_cons, List.mem_cons, ← or_assoc,
      or_comm (a := key ∈ keys first)]
    exact hstep

theorem mem_keys_ofList {pairs : List (String × α)} {key : String} :
    key ∈ keys (ofList pairs) ↔ key ∈ keys pairs := by
  rw [ofList, mem_keys_merge]
  simp

theorem nodup_keys_insert {entries : Entries α} (h : (keys entries).Nodup) (key : String)
    (value : α) : (keys (insert entries key value)).Nodup := by
  rw [keys_insert]
  split
  · exact h
  · next hnew =>
    refine List.nodup_append.mpr ⟨h, List.pairwise_singleton _ _, ?_⟩
    intro other hother last hlast heq
    rw [List.mem_singleton.mp hlast] at heq
    exact hnew (heq ▸ hother)

theorem nodup_keys_merge {first : Entries α} (h : (keys first).Nodup)
    (second : List (String × α)) : (keys (merge first second)).Nodup := by
  induction second generalizing first with
  | nil => exact h
  | cons pair rest ih => exact ih (nodup_keys_insert h pair.1 pair.2)

theorem nodup_keys_ofList (pairs : List (String × α)) : (keys (ofList pairs)).Nodup :=
  nodup_keys_merge (show (keys ([] : Entries α)).Nodup from List.Pairwise.nil) pairs

end JsonValidators.Entries
