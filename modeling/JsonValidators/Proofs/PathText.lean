import JsonValidators.Path

/-!
Paths from their text. Every step is written with a dot or an opening bracket in front, so if names
hold neither, the text shows where each step begins, and no two paths are written alike.
-/

namespace JsonValidators

namespace Segment

/-- A character that the text of a step may begin with. -/
def Opens (c : Char) : Prop := c = '.' ∨ c = '['

/-- A step whose name, if it has one, is not taken for several steps. -/
def Plain : Segment → Prop
  | field name => '.' ∉ name.toList ∧ '[' ∉ name.toList
  | index _ => True

instance : DecidablePred Plain
  | field name => inferInstanceAs (Decidable ('.' ∉ name.toList ∧ '[' ∉ name.toList))
  | index _ => inferInstanceAs (Decidable True)

/-- The character that the text of a step begins with. -/
def opening : Segment → Char
  | field _ => '.'
  | index _ => '['

/-- The characters behind the first. -/
def body : Segment → List Char
  | field name => name.toList
  | index position => Nat.toDigits 10 position ++ [']']

theorem opens_opening (segment : Segment) : Opens segment.opening := by
  cases segment with
  | field name => exact .inl rfl
  | index position => exact .inr rfl

theorem toList_text (segment : Segment) : segment.text.toList = segment.opening :: segment.body := by
  cases segment with
  | field name =>
    rw [text, String.toList_append]
    rfl
  | index position =>
    rw [text, String.toList_append, String.toList_append, Nat.toString_eq_repr, Nat.toList_repr]
    rfl

/-- No digit begins a step. -/
theorem not_opens_of_mem_toDigits {position : Nat} {c : Char} (h : c ∈ Nat.toDigits 10 position) :
    ¬ Opens c := by
  have hdigit : c.isDigit = true := Nat.isDigit_of_mem_toDigits (by decide) (by decide) h
  rintro (rfl | rfl) <;> exact absurd hdigit (by decide)

theorem Plain.not_opens {segment : Segment} (h : segment.Plain) : ∀ c ∈ segment.body, ¬ Opens c := by
  intro c hc
  cases segment with
  | field name =>
    rintro (rfl | rfl)
    · exact h.1 hc
    · exact h.2 hc
  | index position =>
    rcases List.mem_append.mp hc with hdigit | hbracket
    · exact not_opens_of_mem_toDigits hdigit
    · obtain rfl := List.mem_singleton.mp hbracket
      rintro (h | h) <;> exact absurd h (by decide)

/-- A step is told by how its text begins and goes on. -/
theorem eq_of_body_eq {segment other : Segment} (hopening : segment.opening = other.opening)
    (hbody : segment.body = other.body) : segment = other := by
  cases segment with
  | field name =>
    cases other with
    | field name' => exact congrArg field (String.toList_inj.mp hbody)
    | index position => exact absurd hopening (show '.' ≠ '[' by decide)
  | index position =>
    cases other with
    | field name => exact absurd hopening (show '[' ≠ '.' by decide)
    | index position' =>
      have hdigits : Nat.toDigits 10 position = Nat.toDigits 10 position' :=
        List.append_cancel_right hbody
      have hposition : position = position' := by
        rw [← Nat.ofDigitChars_ten_toDigits (n := position), hdigits, Nat.ofDigitChars_ten_toDigits]
      exact congrArg index hposition

/-- Where a step ends is seen from the text, if what follows begins another one. -/
theorem append_inj_of_opens {front back front' back' : List Char}
    (hfront : ∀ c ∈ front, ¬ Opens c) (hback : ∀ c ∈ back.head?, Opens c)
    (hfront' : ∀ c ∈ front', ¬ Opens c) (hback' : ∀ c ∈ back'.head?, Opens c)
    (h : front ++ back = front' ++ back') : front = front' ∧ back = back' := by
  induction front generalizing front' with
  | nil =>
    cases front' with
    | nil => exact ⟨rfl, h⟩
    | cons c front' =>
      obtain rfl : back = c :: (front' ++ back') := h
      exact absurd (hback c rfl) (hfront' c List.mem_cons_self)
  | cons c front ih =>
    cases front' with
    | nil =>
      obtain rfl : c :: (front ++ back) = back' := h
      exact absurd (hback' c rfl) (hfront c List.mem_cons_self)
    | cons c' front' =>
      obtain ⟨rfl, hrest⟩ := List.cons.inj h
      obtain ⟨rfl, hbacks⟩ := ih (fun c hc => hfront c (List.mem_cons_of_mem _ hc))
        (fun c hc => hfront' c (List.mem_cons_of_mem _ hc)) hrest
      exact ⟨rfl, hbacks⟩

/-- The texts of steps, if there are any, begin as the first step does. -/
theorem opens_of_mem_head? {segments : List Segment} :
    ∀ c ∈ (segments.flatMap fun segment => segment.text.toList).head?, Opens c := by
  intro c hc
  cases segments with
  | nil => cases hc
  | cons segment segments =>
    rw [List.flatMap_cons, toList_text] at hc
    obtain rfl := Option.some.inj hc
    exact opens_opening segment

/-- Plain steps are told from their texts one behind another. -/
theorem eq_of_flatMap_text_eq {segments others : List Segment}
    (hplain : ∀ segment ∈ segments, segment.Plain) (hplain' : ∀ segment ∈ others, segment.Plain)
    (h : (segments.flatMap fun segment => segment.text.toList) =
      others.flatMap fun segment => segment.text.toList) : segments = others := by
  induction segments generalizing others with
  | nil =>
    cases others with
    | nil => rfl
    | cons other others =>
      rw [List.flatMap_cons, toList_text] at h
      cases h
  | cons segment segments ih =>
    cases others with
    | nil =>
      rw [List.flatMap_cons, toList_text] at h
      cases h
    | cons other others =>
      obtain ⟨hsegment, hsegments⟩ := List.forall_mem_cons.mp hplain
      obtain ⟨hother, hothers⟩ := List.forall_mem_cons.mp hplain'
      rw [List.flatMap_cons, List.flatMap_cons, toList_text, toList_text, List.cons_append,
        List.cons_append] at h
      obtain ⟨hopening, hrest⟩ := List.cons.inj h
      obtain ⟨hbody, hbehind⟩ := append_inj_of_opens hsegment.not_opens opens_of_mem_head?
        hother.not_opens opens_of_mem_head? hrest
      rw [eq_of_body_eq hopening hbody, ih hsegments hothers hbehind]

end Segment

namespace Path

/-- A path in which no name holds a character that steps begin with. -/
def Plain (path : Path) : Prop := ∀ segment ∈ path.segments, segment.Plain

instance (path : Path) : Decidable path.Plain :=
  inferInstanceAs (Decidable (∀ segment ∈ path.segments, segment.Plain))

/-- If no name holds a dot or an opening bracket, the text of a path, by itself or behind the name of
the input, tells the path. Names may be empty and hold any other characters. -/
theorem eq_of_text_eq {path other : Path} (hplain : path.Plain) (hplain' : other.Plain)
    (h : path.text = other.text ∨ path.fullText = other.fullText) : path = other := by
  have htext : path.text = other.text := by
    rcases h with h | h
    · exact h
    · exact (String.append_right_inj rootName).mp h
  have hsegments : path.segments = other.segments := by
    apply Segment.eq_of_flatMap_text_eq hplain hplain'
    rw [← toList_text, ← toList_text, htext]
  exact congrArg Path.mk hsegments

/-- An empty name and one with a closing bracket are told from the index between them. -/
theorem eq_of_text_eq_brackets :
    (ofList [.field "", .index 10, .field "a] b"]).Plain ∧
      (((root.push (.field "")).push (.index 10)).push (.field "a] b")).Plain ∧
      (ofList [.field "", .index 10, .field "a] b"]).fullText = "input.[10].a] b" ∧
      (((root.push (.field "")).push (.index 10)).push (.field "a] b")).fullText =
        "input.[10].a] b" ∧
      ofList [.field "", .index 10, .field "a] b"] =
        ((root.push (.field "")).push (.index 10)).push (.field "a] b") := by
  have hplain : (ofList [.field "", .index 10, .field "a] b"]).Plain := by decide
  have hplain' : (((root.push (.field "")).push (.index 10)).push (.field "a] b")).Plain := by
    decide
  have htext : (ofList [.field "", .index 10, .field "a] b"]).fullText = "input.[10].a] b" := by
    decide
  have htext' : (((root.push (.field "")).push (.index 10)).push (.field "a] b")).fullText =
      "input.[10].a] b" := by decide
  exact ⟨hplain, hplain', htext, htext',
    eq_of_text_eq hplain hplain' (.inr (htext.trans htext'.symm))⟩

/-- Names are written as they are, so a name with a dot or an opening bracket reads as more steps. -/
example : (ofList [.field "a.b"]).text = (ofList [.field "a", .field "b"]).text ∧
    (ofList [.field "a[0]"]).text = (ofList [.field "a", .index 0]).text := by decide

end Path

end JsonValidators
