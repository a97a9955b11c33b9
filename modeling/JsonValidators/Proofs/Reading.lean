import JsonValidators.Json.Reader
import JsonValidators.Proofs.Declared
import JsonValidators.Proofs.DistinctKeys

/-!
Whatever is read from a text has no key twice: a repeated key takes its last value when
the entries of an object are put together.
-/

namespace JsonValidators.Json

namespace Reader

theorem unsigned?_keysDistinct {negative : Bool} {text rest : List Char} {value : Json}
    (h : unsigned? negative text = some (value, rest)) : value.KeysDistinct := by
  unfold unsigned? at h
  simp only [Option.bind_eq_bind, Option.bind_eq_some_iff, Prod.exists] at h
  obtain ⟨whole, behind, _, h⟩ := h
  split at h
  · cases h
  · simp only [Option.bind_eq_some_iff, Prod.exists] at h
    obtain ⟨_, _, _, _, _, _, number, _, h⟩ := h
    cases h
    exact .number number

theorem number?_keysDistinct {text rest : List Char} {value : Json}
    (h : number? text = some (value, rest)) : value.KeysDistinct := by
  unfold number? at h
  split at h <;> exact unsigned?_keysDistinct h

/-- At a depth at which all values that are read are sound, so are all items. -/
theorem read_keysDistinct (fuel : Nat) :
    (∀ text value rest, Reader.value fuel text = some (value, rest) → value.KeysDistinct) ∧
    (∀ text items rest, Reader.items fuel text = some (items, rest) →
      ∀ item ∈ items, item.KeysDistinct) ∧
    ∀ text entries rest, Reader.entries fuel text = some (entries, rest) →
      ∀ entry ∈ entries, entry.2.KeysDistinct := by
  induction fuel with
  | zero =>
    refine ⟨?_, ?_, ?_⟩ <;> intro text result rest h <;> cases h
  | succ fuel ih =>
    obtain ⟨hvalue, hitems, hentries⟩ := ih
    refine ⟨?_, ?_, ?_⟩
    · intro text value rest h
      unfold Reader.value at h
      split at h
      · simp only [Option.bind_eq_bind, Option.bind_eq_some_iff, Prod.exists] at h
        obtain ⟨chars, _, _, h⟩ := h
        cases h
        exact .string _
      · split at h
        · cases h
          exact .array (by simp)
        · simp only [Option.bind_eq_bind, Option.bind_eq_some_iff, Prod.exists] at h
          obtain ⟨items, _, hread, h⟩ := h
          cases h
          exact .array (hitems _ _ _ hread)
      · split at h
        · cases h
          exact .object List.nodup_nil (by simp)
        · simp only [Option.bind_eq_bind, Option.bind_eq_some_iff, Prod.exists] at h
          obtain ⟨entries, _, hread, h⟩ := h
          cases h
          refine .object (Entries.nodup_keys_ofList entries) fun entry hentry => ?_
          exact hentries _ _ _ hread entry (Entries.mem_ofList hentry)
      · cases h
        exact .null
      · cases h
        exact .bool true
      · cases h
        exact .bool false
      · exact number?_keysDistinct h
    · intro text items rest h
      unfold Reader.items at h
      simp only [Option.bind_eq_bind, Option.bind_eq_some_iff, Prod.exists] at h
      obtain ⟨item, behind, hitem, h⟩ := h
      split at h
      · simp only [Option.bind_eq_some_iff, Prod.exists] at h
        obtain ⟨others, _, hothers, h⟩ := h
        cases h
        exact List.forall_mem_cons.mpr ⟨hvalue _ _ _ hitem, hitems _ _ _ hothers⟩
      · cases h
        exact List.forall_mem_singleton.mpr (hvalue _ _ _ hitem)
      · cases h
    · intro text entries rest h
      unfold Reader.entries at h
      split at h
      · simp only [Option.bind_eq_bind, Option.bind_eq_some_iff, Prod.exists] at h
        obtain ⟨key, _, _, h⟩ := h
        split at h
        · simp only [Option.bind_eq_some_iff, Prod.exists] at h
          obtain ⟨value, _, hread, h⟩ := h
          split at h
          · simp only [Option.bind_eq_some_iff, Prod.exists] at h
            obtain ⟨others, _, hothers, h⟩ := h
            cases h
            exact List.forall_mem_cons.mpr ⟨hvalue _ _ _ hread, hentries _ _ _ hothers⟩
          · cases h
            exact List.forall_mem_singleton.mpr (hvalue _ _ _ hread)
          · cases h
        · cases h
      · cases h

end Reader

theorem read?_keysDistinct {text : List Char} {value : Json} (h : read? text = some value) :
    value.KeysDistinct := by
  unfold read? at h
  split at h
  · next found rest hread =>
    split at h
    · obtain rfl := Option.some.inj h
      exact (Reader.read_keysDistinct (text.length + 1)).1 text found rest hread
    · cases h
  · cases h

end JsonValidators.Json
