import JsonValidators.Proofs.Locations

/-!
What messages say. A message that a validator gives of its own says something about the
value that the path of the failure leads to and about one part of the validator, and
what it says is so.
-/

namespace JsonValidators

namespace Validator

variable (body : String → Validator) (validator : Validator)

/-- The messages that are right about what is found where they point, each with the part
of the validator that it is about. -/
inductive Truthful : Option Json → String → Prop
  | kind {part : Validator} {expected : Kind} {found : Option Json} :
      Unfolds body validator part → part.expectedKind? = some expected →
        Kind.of found ≠ expected → Truthful found
          ("expected " ++ expected.description ++ ", got " ++ (Kind.of found).description)
  | notTuple {elements : List Validator} {found : Option Json} :
      Unfolds body validator (tuple elements) → Kind.of found ≠ .array → Truthful found
        ("expected a tuple of length " ++ toString elements.length ++ ", got " ++
          (Kind.of found).description)
  | tupleLength {elements : List Validator} {items : List Json} :
      Unfolds body validator (tuple elements) → items.length ≠ elements.length →
        Truthful (some (.array items)) ("expected a tuple of length " ++
          toString elements.length ++ ", got one of length " ++ toString items.length)
  | differs {constant : Literal} {found : Option Json} :
      Unfolds body validator (literal constant) →
        (∀ value ∈ found, ¬ Json.equivalent value constant.toJson) → Truthful found
          ("expected " ++ constant.toJson.text ++ ", got " ++ Json.optionText found)
  /-- The key belongs to a declared field that rejects its absence. -/
  | missingKey {part : Validator} {declarations : Fields} {object : Entries Json}
      {field : String × Validator} {fault : Fault} :
      Unfolds body validator part → part.declarations? = some declarations →
        field ∈ Entries.ofList declarations → field.1 ∉ Entries.keys object →
          field.2.result? body none = some (.error fault) → Truthful (some (.object object))
            ("the key '" ++ field.1 ++ "' is required but was not present")
  /-- The key is the first in the object that is not declared, and all declared fields
  pass. -/
  | undeclaredKey {declarations : Fields} {object : Entries Json} {before after : List String}
      {key : String} :
      Unfolds body validator (closedRecord declarations) →
        (∀ field ∈ Entries.ofList declarations, ∃ output,
          field.2.result? body (Entries.get? object field.1) = some (.ok output)) →
            Entries.keys object = before ++ key :: after → key ∉ declarations.names →
              (∀ other ∈ before, other ∈ declarations.names) → Truthful (some (.object object))
                ("an undefined key '" ++ key ++ "' is present in the object")

/-- A validator whose faults are about the value that it looks at: neither those of
alternatives, nor of a path, nor with a reason of the caller's. -/
def SpeaksOfInput : Validator → Prop
  | constant _ accepts => accepts = Json.equivalent
  | never _ | firstOf _ | follow _ _ | ensure _ _ _ => False
  | _ => True

variable {body validator} {part : Validator} {input found : Option Json} {fault : Fault}

theorem SpeaksOfInput.followsNoPath (h : part.SpeaksOfInput) : part.FollowsNoPath := by
  cases part with
  | follow => exact h
  | _ => trivial

theorem Complaint.truthful (h : Complaint body part found fault)
    (hpart : Unfolds body validator part) (hspeaks : part.SpeaksOfInput) :
    Truthful body validator found fault.message := by
  cases h with
  | kind hexpected hkind => exact .kind hpart hexpected hkind
  | notTuple hkind => exact .notTuple hpart hkind
  | tupleLength hlength => exact .tupleLength hpart hlength
  | differs hdiffers =>
    obtain rfl := hspeaks
    exact .differs hpart hdiffers
  | @missingKey _ _ object field _ hdeclarations hfield habsent hrejects =>
    have hkey : field.1 ∉ Entries.keys object := by
      rw [← Entries.isSome_get?_iff, habsent]
      simp
    exact .missingKey hpart hdeclarations hfield hkey hrejects
  | undeclaredKey hpass hkeys hnew hbefore => exact .undeclaredKey hpart hpass hkeys hnew hbefore
  | noneMatched | rejected | unmet | strayed | nowhere => exact hspeaks.elim

/-- What is said of a fault is so of what its path leads to. -/
theorem Blamed.truthful (h : Blamed body validator input fault)
    (hinput : ∀ value ∈ input, value.KeysDistinct) (hspeaks : validator.MadeOf body SpeaksOfInput) :
    ∃ found, fault.path.Leads input found ∧ Truthful body validator found fault.message := by
  obtain ⟨path, part, found, own, hreaches, hcomplaint, rfl⟩ := h
  have hpart := hspeaks part hreaches.unfolds
  have hroot := hcomplaint.path_eq_root hpart.followsNoPath
  refine ⟨found, ?_, hcomplaint.truthful hreaches.unfolds hpart⟩
  rw [Fault.underPath, hroot, Path.append_root]
  exact hreaches.leads hinput

end Validator

namespace Scenario

/-- Whatever has been checked before, the message of a failure is right about what its
path leads to in the input. Only the root of an input that is missing leads to nothing. -/
theorem check_message_truthful {scenario : Scenario} {memory memory' : Memory}
    (h : scenario.Reached memory) {stages number : Nat} {input : Option Json}
    (hinput : ∀ value ∈ input, value.KeysDistinct)
    (hspeaks : (scenario.live number).validator.MadeOf scenario.body Validator.SpeaksOfInput)
    {failure : Failure}
    (hcheck : scenario.check stages number input memory = some (.error failure, memory')) :
    ∃ found, failure.path.Leads input found ∧
      (scenario.live number).validator.Truthful scenario.body found failure.message := by
  obtain ⟨fault, hfails, rfl⟩ := h.consistent.fails_of_check hcheck
  exact (Validator.blamed_of_fails hfails).truthful hinput hspeaks

/-- A list of objects with a name and nothing else, by a definition that is remembered. -/
def names : Scenario :=
  ⟨fun _ => .closedRecord [("name", .string)], [.list (.remembered "named")]⟩

/-- The key that is not declared is the second of an object that has a name. -/
theorem check_names_truthful :
    ∃ memory', names.check 1 0
        (some (.array [.object [("name", .string "a"), ("age", .string "b")]])) names.memory =
      some (.error (Fault.toFailure
        (some (.array [.object [("name", .string "a"), ("age", .string "b")]]))
          ⟨Path.ofList [.index 0], .undeclaredKey "age"⟩), memory') ∧
    ∃ found, (Path.ofList [.index 0]).Leads
        (some (.array [.object [("name", .string "a"), ("age", .string "b")]])) found ∧
      (names.live 0).validator.Truthful names.body found (Reason.undeclaredKey "age").message := by
  have hinput : ∀ value ∈ some (Json.array [.object [("name", .string "a"), ("age", .string "b")]]),
      value.KeysDistinct := by decide
  have hspeaks : (names.live 0).validator.MadeOf names.body Validator.SpeaksOfInput := by
    refine Validator.madeOf_of_throughout (fun definition => ?_) ?_
    · show (names.definitions definition).Throughout _
      simp [names, Validator.SpeaksOfInput]
    · show (Validator.list (.remembered "named")).Throughout _
      simp [Validator.SpeaksOfInput]
  have hcheck : ∃ memory', names.check 1 0
        (some (.array [.object [("name", .string "a"), ("age", .string "b")]])) names.memory =
      some (.error (Fault.toFailure
        (some (.array [.object [("name", .string "a"), ("age", .string "b")]]))
          ⟨Path.ofList [.index 0], .undeclaredKey "age"⟩), memory') := ⟨_, rfl⟩
  obtain ⟨memory', hcheck⟩ := hcheck
  exact ⟨memory', hcheck, check_message_truthful .start hinput hspeaks hcheck⟩

end Scenario

end JsonValidators
