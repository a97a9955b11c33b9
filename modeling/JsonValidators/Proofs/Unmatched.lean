import JsonValidators.Proofs.Endings
import JsonValidators.Proofs.Quoting
import JsonValidators.Proofs.Scenario

/-!
What is said when no alternative matches. The failure is one of the value itself, and its
message lists what is wrong with each alternative. The list can be read back, although the
entries are texts of any kind, other lists of this sort among them, so the message says
everything that the entries say.
-/

namespace JsonValidators

open Run

namespace Reason

/-- The entries are read back from what stands behind the introduction. -/
theorem noneMatched_message (entries : List String) :
    ∃ text, (noneMatched entries).message = noneMatchedIntro ++ text ∧
      Json.read? text.toList = some (.array (entries.map .string)) := by
  refine ⟨(Json.array (entries.map .string)).text, rfl, ?_⟩
  rw [Json.text, String.toList_ofList]
  exact Json.read?_strings entries

theorem noneMatched_message_inj {entries entries' : List String}
    (h : (noneMatched entries).message = (noneMatched entries').message) : entries = entries' := by
  obtain ⟨text, hmessage, hread⟩ := noneMatched_message entries
  obtain ⟨text', hmessage', hread'⟩ := noneMatched_message entries'
  obtain rfl : text = text' := by
    rw [hmessage, hmessage'] at h
    exact (String.append_right_inj _).mp h
  have hitems := Json.array.inj (Option.some.inj (hread.symm.trans hread'))
  exact List.map_injective_iff.mpr (fun _ _ => Json.string.inj) hitems

end Reason

namespace Validator

/-- If each alternative fails by itself, all of them together fail on the value itself. -/
theorem outcome?_firstOf {body : String → Validator} {stages : Nat} {branches : List Validator}
    {input : Option Json} {faults : List Fault}
    (h : List.Forall₂ (fun branch fault => branch.outcome? body stages input = some (.error fault))
      branches faults) :
    (firstOf branches).outcome? body stages input =
      some (.error (Fault.here (.noneMatched (faults.map Fault.entry)))) := by
  have hfails : ((firstOf branches).interpret (.forgetful body stages) 0 input).Fails
      (Fault.here (.noneMatched (faults.map Fault.entry))) := by
    rw [(Construction.forgetful_placeless body stages).interpret_firstOf]
    refine Check.fails_firstOf.mpr ⟨faults, ?_, rfl⟩
    rw [List.forall₂_map_left_iff]
    exact h.imp fun _ _ => run_of_outcome?
  exact congrArg (Option.map Prod.fst) hfails

end Validator

namespace Scenario

/-- A validator with alternatives, each of which fails on the input, with these faults. -/
def NoneMatches (scenario : Scenario) (stages number : Nat) (input : Option Json)
    (faults : List Fault) : Prop :=
  ∃ branches, (scenario.live number).validator = .firstOf branches ∧
    List.Forall₂ (fun branch fault =>
      branch.outcome? scenario.body stages input = some (.error fault)) branches faults

theorem NoneMatches.check {scenario : Scenario} {stages number : Nat} {input : Option Json}
    {faults : List Fault} (h : scenario.NoneMatches stages number input faults) {memory : Memory}
    (hmemory : scenario.Reached memory) : ∃ memory', scenario.check stages number input memory =
      some (.error ((Fault.here (.noneMatched (faults.map Fault.entry))).toFailure input),
        memory') := by
  obtain ⟨branches, hvalidator, hfaults⟩ := h
  have hcheck := hmemory.consistent.check_outcome stages number input
  rw [hvalidator, Validator.outcome?_firstOf hfaults] at hcheck
  obtain ⟨⟨outcome, memory'⟩, hending, rfl⟩ := Option.map_eq_some_iff.mp hcheck
  exact ⟨memory', hending⟩

/-- If no alternative matches, the check fails at the root. Behind its introduction, the
message is the text of an array of strings, which are one entry for each alternative, in
order. No other alternatives with other entries have the same message. -/
theorem check_entries_read_back {scenario : Scenario} {memory : Memory}
    (h : scenario.Reached memory) {stages number : Nat} {input : Option Json} {faults : List Fault}
    (hnone : scenario.NoneMatches stages number input faults) :
    ∃ failure memory', scenario.check stages number input memory = some (.error failure, memory') ∧
      failure.path = Path.root ∧ failure.location = "input" ∧
      (∃ text, failure.message =
          "expected a value matching one of the decoders, got the errors " ++ text ∧
        Json.read? text.toList = some (.array (faults.map fun fault =>
          .string ("at error" ++ fault.path.text ++ ": " ++ fault.message)))) ∧
      ∀ (other : Scenario) (later later' : Memory) (stages' number' : Nat) (input' : Option Json)
        (faults' : List Fault) (failure' : Failure), other.Reached later →
        other.NoneMatches stages' number' input' faults' →
        other.check stages' number' input' later = some (.error failure', later') →
        failure'.message = failure.message → faults'.map Fault.entry = faults.map Fault.entry := by
  obtain ⟨memory', hcheck⟩ := hnone.check h
  refine ⟨_, memory', hcheck, rfl, rfl, ?_, ?_⟩
  · obtain ⟨text, hmessage, hread⟩ := Reason.noneMatched_message (faults.map Fault.entry)
    refine ⟨text, hmessage, ?_⟩
    rw [hread, List.map_map]
    rfl
  · intro other later later' stages' number' input' faults' failure' hlater hnone' hcheck' hsame
    obtain ⟨last, hending⟩ := hnone'.check hlater
    rw [hcheck'] at hending
    cases hending
    exact Reason.noneMatched_message_inj hsame

/-- A literal with a line end and a quote in it, or alternatives inside of alternatives, or a
number under a key with a quote in it. -/
def commands : Scenario :=
  ⟨fun _ => .never "not defined",
    [.firstOf [.literal (.json (.string "a\n\"b\"")), .firstOf [.number, .never "\x01],\\"],
      .record [("é\"", .number)]]]⟩

/-- The entries of the inner alternatives are in an entry of the outer ones, and the key is in the
path of the last entry. -/
theorem check_commands_read_back :
    ∃ failure memory', commands.check 0 0 (some (.object [("é\"", .null)])) commands.memory =
        some (.error failure, memory') ∧ failure.path = Path.root ∧
      ∃ text, failure.message =
          "expected a value matching one of the decoders, got the errors " ++ text ∧
        Json.read? text.toList = some (.array [
          .string "at error: expected \"a\\n\\\"b\\\"\", got \x7b\"é\\\"\":null\x7d",
          .string ("at error: expected a value matching one of the decoders, got the errors " ++
            "[\"at error: expected a number, got an object\",\"at error: \\u0001],\\\\\"]"),
          .string "at error.é\": expected a number, got null"]) := by
  have hnone : commands.NoneMatches 0 0 (some (.object [("é\"", .null)]))
      [Fault.here (.differs (.string "a\n\"b\"") (some (.object [("é\"", .null)]))),
        Fault.here (.noneMatched [(Fault.here (.kind .number .object)).entry,
          (Fault.here (.custom "\x01],\\")).entry]),
        ⟨Path.ofList [.field "é\""], .kind .number .null⟩] :=
    ⟨_, rfl, .cons rfl (.cons rfl (.cons rfl .nil))⟩
  obtain ⟨failure, memory', hcheck, hroot, _, ⟨text, hmessage, hread⟩, _⟩ :=
    check_entries_read_back .start hnone
  exact ⟨failure, memory', hcheck, hroot, text, hmessage, hread⟩

end Scenario

end JsonValidators
