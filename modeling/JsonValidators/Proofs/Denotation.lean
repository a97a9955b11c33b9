import JsonValidators.Proofs.Projection
import JsonValidators.Proofs.Reordering
import JsonValidators.Proofs.Rounding

/-!
What JSON values denote. An object denotes what each key leads to, whatever the order of
its keys, and a number denotes the number itself. Equality up to the order of keys is
equality of what is denoted, if the relation between numbers is; so the equality that
constants are checked with is equality up to rounding.
-/

namespace JsonValidators

/-- What a JSON value denotes, over a type of numbers. -/
inductive Data (ν : Type) where
  | null
  | bool (value : Bool)
  | number (value : ν)
  | string (value : String)
  | array (items : List (Data ν))
  | object (property? : String → Option (Data ν))

namespace Json

variable {ν : Type}

mutual

/-- The denotation of a value, if that of numbers is given. -/
def dataBy (denote : Number → ν) : Json → Data ν
  | null => .null
  | bool value => .bool value
  | number value => .number (denote value)
  | string value => .string value
  | array items => .array (itemsData denote items)
  | object entries => .object fun key => Entries.get? (entriesData denote entries) key

def itemsData (denote : Number → ν) : List Json → List (Data ν)
  | [] => []
  | item :: items => dataBy denote item :: itemsData denote items

def entriesData (denote : Number → ν) : List (String × Json) → List (String × Data ν)
  | [] => []
  | (key, value) :: entries => (key, dataBy denote value) :: entriesData denote entries

end

/-- Every number is denoted as it is. -/
def data (value : Json) : Data ℚ := value.dataBy Number.value

/-- Every number is denoted as the binary64 number nearest to it. -/
def roundedData (value : Json) : Data ℚ := value.dataBy fun number => number.nearest.value

/-- All numbers in a value are of one sort. -/
inductive EveryNumber (P : Number → Prop) : Json → Prop
  | null : EveryNumber P null
  | bool (value : Bool) : EveryNumber P (bool value)
  | number {value : Number} : P value → EveryNumber P (number value)
  | string (value : String) : EveryNumber P (string value)
  | array {items : List Json} : (∀ item ∈ items, EveryNumber P item) → EveryNumber P (array items)
  | object {entries : List (String × Json)} : (∀ entry ∈ entries, EveryNumber P entry.2) →
      EveryNumber P (object entries)

section Agreement

variable {sameNumber : Number → Number → Bool} {denote : Number → ν}

theorem get?_entriesData (entries : Entries Json) (key : String) :
    Entries.get? (entriesData denote entries) key =
      (Entries.get? entries key).map (dataBy denote) := by
  induction entries with
  | nil => rfl
  | cons entry entries ih =>
    obtain ⟨name, value⟩ := entry
    rw [entriesData, Entries.get?, Entries.get?, ih]
    split <;> rfl

theorem equalItemsBy_iff_data {xs ys : List Json}
    (h : ∀ x ∈ xs, ∀ y ∈ ys, equalBy sameNumber x y ↔ x.dataBy denote = y.dataBy denote) :
    equalItemsBy sameNumber xs ys ↔ itemsData denote xs = itemsData denote ys := by
  induction xs generalizing ys with
  | nil => cases ys <;> simp [equalItemsBy, itemsData]
  | cons x xs ih =>
    cases ys with
    | nil => simp [equalItemsBy, itemsData]
    | cons y ys =>
      have hfirst := h x List.mem_cons_self y List.mem_cons_self
      have hrest := ih fun x' hx' y' hy' =>
        h x' (List.mem_cons_of_mem _ hx') y' (List.mem_cons_of_mem _ hy')
      rw [equalItemsBy, itemsData, itemsData, Bool.and_eq_true, hfirst, hrest, List.cons.injEq]

/-- Objects agree exactly if all keys lead to values that agree. -/
theorem equalBy_object_iff {xs ys : Entries Json} (hxs : (Entries.keys xs).Nodup)
    (hys : (Entries.keys ys).Nodup) : equalBy sameNumber (object xs) (object ys) ↔
      ∀ key, Option.Rel (fun x y => equalBy sameNumber x y) (Entries.get? xs key)
        (Entries.get? ys key) := by
  rw [equalBy, Bool.and_eq_true, beq_iff_eq, coveredBy_iff]
  constructor
  · rintro ⟨hlength, hcovered⟩
    have hkeys : ∀ key ∈ Entries.keys xs, key ∈ Entries.keys ys := by
      intro key hkey
      obtain ⟨entry, hentry, rfl⟩ := List.mem_map.mp hkey
      obtain ⟨y, hy, _⟩ := hcovered entry hentry
      exact Entries.mem_keys_iff.mpr ⟨y, hy⟩
    have hmatched : Entries.Matched (fun x y => equalBy sameNumber x y) xs ys := by
      refine ⟨hxs, keys_perm_of_covered hxs hlength hkeys, fun key x y hx hy => ?_⟩
      obtain ⟨y', hy', hagrees⟩ := hcovered (key, x) (Entries.mem_of_get? hx)
      obtain rfl : y = y' := Option.some.inj (hy.symm.trans hy')
      exact hagrees
    exact hmatched.get?
  · intro h
    have hmatched := Entries.Matched.of_get? hxs hys h
    exact ⟨hmatched.length_eq, fun entry hentry => hmatched.exists_right hentry⟩

/-- Values in which no object has a key twice agree exactly if they denote the same, if
numbers do. -/
theorem equalBy_iff_data (hnumber : ∀ x y, sameNumber x y ↔ denote x = denote y) {x y : Json}
    (hx : x.KeysDistinct) (hy : y.KeysDistinct) :
    equalBy sameNumber x y ↔ x.dataBy denote = y.dataBy denote := by
  induction hx generalizing y with
  | null => cases y <;> simp [equalBy, dataBy]
  | bool value => cases y <;> simp [equalBy, dataBy]
  | number value => cases y <;> simp [equalBy, dataBy, hnumber]
  | string value => cases y <;> simp [equalBy, dataBy]
  | array _ ih =>
    cases y with
    | array ys =>
      rw [equalBy, dataBy, dataBy, Data.array.injEq]
      exact equalItemsBy_iff_data fun x hx y hmem => ih x hx (hy.items y hmem)
    | _ => simp [equalBy, dataBy]
  | @object xs hnodup _ ih =>
    cases y with
    | object ys =>
      obtain ⟨hnodup', hentries⟩ := hy.entries
      rw [equalBy_object_iff hnodup hnodup', dataBy, dataBy, Data.object.injEq, funext_iff]
      refine forall_congr' fun key => ?_
      rw [get?_entriesData, get?_entriesData]
      cases hfirst : Entries.get? xs key with
      | none => cases Entries.get? ys key <;> simp
      | some x =>
        cases hsecond : Entries.get? ys key with
        | none => simp
        | some y =>
          have hvalue := hentries (key, y) (Entries.mem_of_get? hsecond)
          simp [ih (key, x) (Entries.mem_of_get? hfirst) hvalue]
    | _ => simp [equalBy, dataBy]

/-- Values that agree still do if more numbers do. -/
theorem equalBy_mono {sameNumber' : Number → Number → Bool}
    (hmore : ∀ x y, sameNumber x y → sameNumber' x y) {x y : Json} (hx : x.KeysDistinct)
    (hy : y.KeysDistinct) (h : equalBy sameNumber x y) : equalBy sameNumber' x y := by
  induction hx generalizing y with
  | null => cases y <;> simp_all [equalBy]
  | bool value => cases y <;> simp_all [equalBy]
  | number value => cases y <;> simp_all [equalBy]
  | string value => cases y <;> simp_all [equalBy]
  | @array xs _ ih =>
    cases y with
    | array ys =>
      rw [equalBy, equalItemsBy_iff] at h ⊢
      exact forall₂_imp_of_mem h fun x hx y hmem => ih x hx (hy.items y hmem)
    | _ => simp [equalBy] at h
  | @object xs hnodup _ ih =>
    cases y with
    | object ys =>
      obtain ⟨hnodup', hentries⟩ := hy.entries
      rw [equalBy_object_iff hnodup hnodup'] at h ⊢
      have hmatched := Entries.Matched.of_get? hnodup hnodup' h
      refine Entries.Matched.get? ⟨hnodup, hmatched.perm, fun key x y hx hy => ?_⟩
      exact ih (key, x) (Entries.mem_of_get? hx) (hentries (key, y) (Entries.mem_of_get? hy))
        (hmatched.related key x y hx hy)
    | _ => simp [equalBy] at h

theorem itemsData_eq_map (items : List Json) :
    itemsData denote items = items.map (dataBy denote) := by
  induction items with
  | nil => rfl
  | cons item items ih => rw [itemsData, List.map_cons, ih]

theorem entriesData_eq_map (entries : List (String × Json)) : entriesData denote entries =
    entries.map fun entry => (entry.1, entry.2.dataBy denote) := by
  induction entries with
  | nil => rfl
  | cons entry entries ih => rw [entriesData, List.map_cons, ih]

/-- Denotations that are the same for the numbers in a value are the same for the value. -/
theorem EveryNumber.dataBy_eq {P : Number → Prop} {denote' : Number → ν} {value : Json}
    (h : value.EveryNumber P) (heq : ∀ number, P number → denote number = denote' number) :
    value.dataBy denote = value.dataBy denote' := by
  induction h with
  | null => rfl
  | bool value => rfl
  | number hnumber => rw [dataBy, dataBy, heq _ hnumber]
  | string value => rfl
  | array _ ih =>
    rw [dataBy, dataBy, itemsData_eq_map, itemsData_eq_map, List.map_congr_left ih]
  | @object entries _ ih =>
    have hentries : entries.map (fun entry => (entry.1, entry.2.dataBy denote)) =
        entries.map fun entry => (entry.1, entry.2.dataBy denote') :=
      List.map_congr_left fun entry hentry => congrArg (Prod.mk entry.1) (ih entry hentry)
    rw [dataBy, dataBy, entriesData_eq_map, entriesData_eq_map, hentries]

end Agreement

section Equivalence

variable {x y : Json}

/-- Values are equivalent exactly if they denote the same up to rounding. -/
theorem equivalent_iff_roundedData (hx : x.KeysDistinct) (hy : y.KeysDistinct) :
    equivalent x y ↔ x.roundedData = y.roundedData :=
  equalBy_iff_data Number.agrees_iff hx hy

/-- Values that denote the same are equivalent. -/
theorem equivalent_of_data (hx : x.KeysDistinct) (hy : y.KeysDistinct) (h : x.data = y.data) :
    equivalent x y := by
  have hsame : equalBy (fun number number' => decide (number.value = number'.value)) x y :=
    (equalBy_iff_data (fun _ _ => decide_eq_true_iff) hx hy).mpr h
  refine equalBy_mono (fun number number' hvalue => ?_) hx hy hsame
  exact Number.agrees_of_value (decide_eq_true_iff.mp hvalue)

/-- Rounding makes no difference to values with exact numbers only. -/
theorem roundedData_eq_data (h : x.EveryNumber Number.Exact) : x.roundedData = x.data :=
  h.dataBy_eq fun _ hexact => Number.value_inj.mpr hexact.units_nearest

/-- If all numbers are exact, values are equivalent exactly if they denote the same. -/
theorem equivalent_iff_data (hx : x.KeysDistinct) (hy : y.KeysDistinct)
    (hexact : x.EveryNumber Number.Exact) (hexact' : y.EveryNumber Number.Exact) :
    equivalent x y ↔ x.data = y.data := by
  rw [equivalent_iff_roundedData hx hy, roundedData_eq_data hexact, roundedData_eq_data hexact']

end Equivalence

end Json

end JsonValidators
