import JsonValidators.Json.Reader
import JsonValidators.Json.Text

/-!
Quoted strings. A string that is written in quotes is read back as it was, whatever
characters it has, and so is an array of strings: no quote, comma or bracket of an item
is taken for the end of it.
-/

namespace JsonValidators.Json

namespace Reader

section Characters

theorem hexValue?_hexDigit (n : Nat) : hexValue? (hexDigit n) = some (n % 16) := by
  have hall : ∀ m < 16, hexValue? (Nat.digitChar m) = some m := by decide
  exact hall (n % 16) (Nat.mod_lt n (by decide))

/-- The code of a control character, as it is written. -/
theorem codeUnit?_control {c : Char} (h : c.toNat < 0x20) :
    codeUnit? '0' '0' (hexDigit (c.toNat / 16)) (hexDigit c.toNat) = some c.toNat := by
  have hzero : hexValue? '0' = some 0 := by decide
  simp only [codeUnit?, hzero, hexValue?_hexDigit, Option.bind_eq_bind, Option.bind_some]
  refine congrArg some ?_
  omega

theorem character?_toNat (c : Char) : character? c.toNat = some c := by
  have hvalid : c.toNat.isValidChar := c.valid
  rw [character?, if_pos hvalid, Char.ofNat_toNat]

/-- A character that needs no escape stands for itself. -/
theorem stringRest_plain {c : Char} (hquote : c ≠ '"') (hslash : c ≠ '\\')
    (hcontrol : ¬ c.toNat < 0x20) (rest : List Char) :
    stringRest (c :: rest) = (stringRest rest).map (prepend c) := by
  have hplain : ¬ (c.toNat < 0x20 ∨ c = '\\') := not_or.mpr ⟨hcontrol, hslash⟩
  rw [stringRest, if_neg hplain]
  · exact hquote
  · exact fun _ _ _ _ _ heq => absurd heq hslash
  · exact fun _ _ heq => absurd heq hslash

theorem stringRest_control {c : Char} (h : c.toNat < 0x20) (rest : List Char) :
    stringRest ('\\' :: 'u' :: '0' :: '0' :: hexDigit (c.toNat / 16) :: hexDigit c.toNat :: rest) =
      (stringRest rest).map (prepend c) := by
  rw [stringRest, codeUnit?_control h]
  dsimp only
  rw [character?_toNat]

/-- However a character is written, it is read. -/
theorem stringRest_escapeChar (c : Char) (rest : List Char) :
    stringRest (escapeChar c ++ rest) = (stringRest rest).map (prepend c) := by
  -- The seven letters of their own are tried in the order of the definition.
  by_cases hquote : c = '"'
  · subst hquote
    rfl
  by_cases hslash : c = '\\'
  · subst hslash
    rfl
  by_cases hback : c = '\x08'
  · subst hback
    rfl
  by_cases hfeed : c = '\x0c'
  · subst hfeed
    rfl
  by_cases hline : c = '\n'
  · subst hline
    rfl
  by_cases hreturn : c = '\r'
  · subst hreturn
    rfl
  by_cases htab : c = '\t'
  · subst htab
    rfl
  rw [escapeChar, if_neg hquote, if_neg hslash, if_neg hback, if_neg hfeed, if_neg hline,
    if_neg hreturn, if_neg htab]
  split
  · next hcontrol => exact stringRest_control hcontrol rest
  · next hcontrol => exact stringRest_plain hquote hslash hcontrol rest

theorem stringRest_flatMap (text rest : List Char) :
    stringRest (text.flatMap escapeChar ++ '"' :: rest) = some (text, rest) := by
  induction text with
  | nil => rfl
  | cons c text ih =>
    rw [List.flatMap_cons, List.append_assoc, stringRest_escapeChar, ih]
    rfl

end Characters

theorem skipBlank_cons {c : Char} (hc : (c == ' ' || c == '\n' || c == '\t' || c == '\r') = false)
    (rest : List Char) : skipBlank (c :: rest) = c :: rest := by
  simp [skipBlank, hc]

theorem value_string (fuel : Nat) (text : String) (rest : List Char) :
    value (fuel + 1) (chars (.string text) ++ rest) = some (.string text, rest) := by
  have hquoted : chars (.string text) ++ rest =
      '"' :: (text.toList.flatMap escapeChar ++ '"' :: rest) := by simp [chars, quote]
  rw [hquoted, value, skipBlank_cons (by decide)]
  simp [stringRest_flatMap]

/-- Strings up to the end of their array. Each takes one level of depth. -/
theorem items_strings (first : String) (strings : List String) (rest : List Char) (more : Nat) :
    items (strings.length + 2 + more)
        (chars (.string first) ++ (itemsChars (strings.map .string) ++ rest)) =
      some (.string first :: strings.map .string, rest) := by
  induction strings generalizing first with
  | nil =>
    rw [List.length_nil, Nat.zero_add, Nat.add_comm, items, value_string]
    rfl
  | cons second strings ih =>
    have hfuel : (second :: strings).length + 2 + more = strings.length + 1 + more + 1 + 1 := by
      rw [List.length_cons]
      omega
    have hrest := ih second
    rw [show strings.length + 2 + more = strings.length + 1 + more + 1 by omega] at hrest
    rw [hfuel, items, value_string, List.map_cons, itemsChars]
    simp only [Option.bind_eq_bind, Option.bind_some, List.cons_append, List.append_assoc]
    rw [skipBlank_cons (by decide)]
    simp only [hrest, Option.bind_some]
    rfl

/-- An array that begins with a string. -/
theorem value_array {fuel : Nat} {text rest : List Char} {items : List Json}
    (h : Reader.items fuel ('"' :: text) = some (items, rest)) :
    value (fuel + 1) ('[' :: '"' :: text) = some (.array items, rest) := by
  have hfirst : skipBlank ('"' :: text) = '"' :: text := skipBlank_cons (by decide) text
  rw [value, skipBlank_cons (by decide)]
  simp [hfirst, h]

end Reader

/-- Every string takes up a character at least. -/
theorem length_lt_itemsChars (strings : List String) :
    strings.length < (itemsChars (strings.map .string)).length := by
  induction strings with
  | nil => simp [itemsChars]
  | cons first strings ih =>
    simp only [List.map_cons, itemsChars, List.length_cons, List.length_append]
    omega

/-- An array of strings is read back from its text. -/
theorem read?_strings (strings : List String) :
    read? (array (strings.map .string)).chars = some (array (strings.map .string)) := by
  cases strings with
  | nil => rfl
  | cons first strings =>
    have hchars : (array ((first :: strings).map .string)).chars =
        '[' :: (chars (.string first) ++ itemsChars (strings.map .string)) := rfl
    -- The text is long enough for the depth that its items are read at.
    obtain ⟨more, hmore⟩ : ∃ more, (array ((first :: strings).map .string)).chars.length =
        strings.length + 2 + more := by
      refine Nat.exists_eq_add_of_le ?_
      have hlength := length_lt_itemsChars strings
      rw [hchars, List.length_cons, List.length_append]
      omega
    have hitems := Reader.items_strings first strings [] more
    rw [List.append_nil, ← hmore] at hitems
    have hvalue := Reader.value_array hitems
    rw [read?]
    exact hvalue ▸ rfl

end JsonValidators.Json
