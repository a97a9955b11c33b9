/-!
Dictionaries kept in the order in which their keys first arrived. Storing under
a key that is already present replaces the value and leaves the key where it
stands, so a later value wins and an earlier position does.
-/

namespace JsonValidators

/-- A dictionary as a list of keys and values. Every operation of this module
keeps the keys distinct. -/
abbrev Entries (α : Type) := List (String × α)

namespace Entries

variable {α : Type}

def keys (entries : Entries α) : List String := entries.map Prod.fst

def get? : Entries α → String → Option α
  | [], _ => none
  | (k, v) :: rest, key => if k = key then some v else get? rest key

/-- A key is present exactly when it has a value. -/
def contains (entries : Entries α) (key : String) : Bool := (get? entries key).isSome

/-- Store a value: in place if the key is present, else at the end. -/
def insert : Entries α → String → α → Entries α
  | [], key, value => [(key, value)]
  | (k, v) :: rest, key, value =>
    if k = key then (k, value) :: rest else (k, v) :: insert rest key value

/-- Store every entry of the second dictionary into the first, in order. -/
def merge (first second : Entries α) : Entries α :=
  second.foldl (fun merged (key, value) => insert merged key value) first

/-- The dictionary of a list of pairs in which keys may repeat. -/
def ofList (pairs : List (String × α)) : Entries α := merge [] pairs

@[simp] theorem keys_nil : keys ([] : Entries α) = [] := rfl

@[simp] theorem keys_cons (key : String) (value : α) (rest : Entries α) :
    keys ((key, value) :: rest) = key :: keys rest := rfl

/-- A key has a value exactly when it is among the keys. -/
theorem isSome_get?_iff (entries : Entries α) (key : String) :
    (get? entries key).isSome ↔ key ∈ keys entries := by
  induction entries with
  | nil => simp [get?]
  | cons entry rest ih =>
    obtain ⟨k, v⟩ := entry
    by_cases h : k = key
    · simp [get?, h]
    · have h' : ¬ key = k := fun e => h e.symm
      simp [get?, h, h', ih]

theorem mem_of_get? {entries : Entries α} {key : String} {value : α}
    (h : get? entries key = some value) : (key, value) ∈ entries := by
  induction entries with
  | nil => exact absurd h (by simp [get?])
  | cons entry rest ih =>
    obtain ⟨k, v⟩ := entry
    rw [get?] at h
    split at h
    · next heq =>
      cases h
      exact heq ▸ List.mem_cons_self
    · exact List.mem_cons_of_mem _ (ih h)

/-- Reading after a store gives the new value under its key and the old value
under every other key. -/
theorem get?_insert (entries : Entries α) (key other : String) (value : α) :
    get? (insert entries key value) other =
      if key = other then some value else get? entries other := by
  induction entries with
  | nil => simp [insert, get?]
  | cons entry rest ih =>
    obtain ⟨k, v⟩ := entry
    by_cases h : k = key
    · subst h
      by_cases ho : k = other <;> simp [insert, get?, ho]
    · by_cases ho : k = other
      · subst ho
        have h' : ¬ key = k := fun e => h e.symm
        simp [insert, get?, h, h']
      · simp [insert, get?, h, ho, ih]

/-- A store leaves the keys as they are, or adds its own at the end. -/
theorem keys_insert (entries : Entries α) (key : String) (value : α) :
    keys (insert entries key value) =
      if key ∈ keys entries then keys entries else keys entries ++ [key] := by
  induction entries with
  | nil => simp [insert]
  | cons entry rest ih =>
    obtain ⟨k, v⟩ := entry
    by_cases h : k = key
    · simp [insert, h]
    · have h' : ¬ key = k := fun e => h e.symm
      by_cases hm : key ∈ keys rest <;> simp [insert, h, h', ih, hm]

end Entries

end JsonValidators
