import JsonValidators.Proofs.Endings
import JsonValidators.Proofs.Scenario
import Mathlib.Data.Nat.Find

/-!
Where a walk along a path ends. It goes as deep as the path leads to values, and what comes next
decides: the end of the path, a value that the next step does not lead into, or nothing at all.
Only behind the last step nothing may be found.
-/

namespace JsonValidators

namespace Path

/-- The first steps of a path. -/
def take (path : Path) (count : Nat) : Path := ⟨path.segments.take count⟩

/-- The longest part of a path, from the root on, that leads to a value. -/
structure Deepest (value : Json) (path : Path) (depth : Nat) (found : Json) : Prop where
  le_length : depth ≤ path.length
  resolve_take : (path.take depth).resolve value = some found
  longest : ∀ more, depth < more → more ≤ path.length → (path.take more).resolve value = none

variable {value found : Json} {path : Path} {segment : Segment} {depth : Nat}

theorem take_succ (h : path.segments[depth]? = some segment) :
    path.take (depth + 1) = (path.take depth).push segment := by
  rw [take, List.take_add_one, h]
  rfl

/-- A step leads somewhere only from a value that it leads into. -/
theorem kind_of_step (h : step value segment = some found) :
    Kind.of (some value) = segment.container := by
  cases segment <;> cases value <;> first | rfl | cases h

theorem exists_deepest (value : Json) (path : Path) :
    ∃ depth found, Deepest value path depth found := by
  have hroot : ((path.take 0).resolve value).isSome := rfl
  obtain ⟨found, hfound⟩ := Option.isSome_iff_exists.mp
    (Nat.findGreatest_spec (P := fun count => ((path.take count).resolve value).isSome)
      (Nat.zero_le path.length) hroot)
  refine ⟨_, found, Nat.findGreatest_le path.length, hfound, fun more hmore hle => ?_⟩
  exact Option.not_isSome_iff_eq_none.mp (Nat.findGreatest_is_greatest hmore hle)

/-- The step behind the longest part leads nowhere. -/
theorem Deepest.step_eq_none (h : Deepest value path depth found)
    (hsegment : path.segments[depth]? = some segment) : step found segment = none := by
  have hlength : depth < path.length := (List.getElem?_eq_some_iff.mp hsegment).1
  have hnone := h.longest (depth + 1) (Nat.lt_succ_self depth) hlength
  have happend : (path.take depth).push segment = path.take depth ++ ofList [segment] := rfl
  rw [take_succ hsegment, happend, resolve_append, h.resolve_take] at hnone
  exact hnone

end Path

namespace Check

variable {value found : Json} {walked path : Path} {segment : Segment} {depth : Nat}

/-- As long as a path leads to values, the walk goes on from them. -/
theorem walk_append {front : List Segment} (h : Path.resolve value ⟨front⟩ = some found)
    (back : List Segment) :
    walk walked (front ++ back) (some value) = walk (walked ++ ⟨front⟩) back (some found) := by
  induction front generalizing walked value with
  | nil =>
    cases h
    exact congrArg (walk · back (some found)) (Path.append_root walked).symm
  | cons segment front ih =>
    obtain ⟨next, hstep, hrest⟩ := Option.bind_eq_some_iff.mp
      ((Path.resolve_cons value segment ⟨front⟩).symm.trans h)
    rw [List.cons_append, walk_cons, if_pos (Path.kind_of_step hstep), hstep, ih hrest]
    exact congrArg (walk · back (some found))
      (Path.append_assoc walked (Path.ofList [segment]) ⟨front⟩)

/-- A walk comes to the deepest value and goes on with the steps that are left. -/
theorem walk_of_deepest (h : path.Deepest value depth found) :
    walk Path.root path.segments (some value) =
      walk (path.take depth) (path.segments.drop depth) (some found) := by
  have hsplit : path.segments.take depth ++ path.segments.drop depth = path.segments :=
    List.take_append_drop depth path.segments
  rw [← hsplit, walk_append h.resolve_take, hsplit]
  rfl

theorem walk_of_deepest_end (h : path.Deepest value depth found) (hend : depth = path.length) :
    walk Path.root path.segments (some value) = .ok (some found) := by
  rw [walk_of_deepest h, hend, Path.length, List.drop_length]
  rfl

theorem walk_of_deepest_step (h : path.Deepest value depth found)
    (hsegment : path.segments[depth]? = some segment) :
    walk Path.root path.segments (some value) =
      if Kind.of (some found) = segment.container then
        walk (path.take (depth + 1)) (path.segments.drop (depth + 1)) none
      else .error ⟨path.take (depth + 1), wrongKind segment.container (some found)⟩ := by
  obtain ⟨hlength, hget⟩ := List.getElem?_eq_some_iff.mp hsegment
  rw [walk_of_deepest h, List.drop_eq_getElem_cons hlength, hget, walk_cons,
    h.step_eq_none hsegment, Path.take_succ hsegment]

/-- Nothing is found behind the last step, and there is no step from nothing. -/
theorem walk_of_nothing (count : Nat) : walk (path.take count) (path.segments.drop count) none =
    if count < path.length then .error ⟨path.take (count + 1), .nowhere⟩ else .ok none := by
  split
  · next hlength =>
    have hsegment : path.segments[count]? = some path.segments[count] :=
      List.getElem?_eq_getElem hlength
    rw [List.drop_eq_getElem_cons hlength, Path.take_succ hsegment]
    rfl
  · next hlength =>
    rw [List.drop_eq_nil_of_le (Nat.le_of_not_lt hlength)]
    rfl

end Check

namespace Scenario

variable {scenario : Scenario} {memory : Memory} {stages number : Nat} {path : Path}
  {inner : Validator} {input found : Option Json}

/-- What is found is left to the inner validator, and its fault is located. -/
theorem Reached.answer?_of_found (h : scenario.Reached memory)
    (hvalidator : (scenario.live number).validator = .follow path inner)
    (hwalk : Check.walk Path.root path.segments input = .ok found) :
    scenario.answer? stages number input memory =
      (inner.outcome? scenario.body stages found).map
        (Outcome.mapError fun fault => (Check.locatedFault path found fault).toFailure input) := by
  rw [h.answer?_eq, hvalidator, Validator.outcome?, Validator.outcome?, Validator.interpret,
    Check.follow, hwalk]
  dsimp only
  unfold Run.mapFault Run.settle
  rcases inner.interpret _ 0 found () with - | ⟨fault | output, ⟨⟩⟩ <;> rfl

theorem Reached.answer?_of_strayed (h : scenario.Reached memory)
    (hvalidator : (scenario.live number).validator = .follow path inner) {fault : Fault}
    (hwalk : Check.walk Path.root path.segments input = .error fault) :
    scenario.answer? stages number input memory = some (.error (fault.toFailure input)) := by
  rw [h.answer?_eq, hvalidator, Validator.outcome?, Validator.interpret, Check.follow, hwalk]
  rfl

/-- Without an input there is nothing to look at behind a path of one step or more, and its first
step is reported. With an input, let a value be the deepest that the path leads to. At the end of
the path, the inner validator looks at it, and its faults are located behind the path. Otherwise,
a value of the wrong kind for the next step is reported behind that step. If that step is the
last, the inner validator looks at nothing, and its faults say that the path does not exist; if
it is not, the step behind it is reported to lead nowhere. -/
theorem answers_follow_path {scenario : Scenario} {memory : Memory}
    (h : scenario.Reached memory) (stages : Nat) {number : Nat} {path : Path} {inner : Validator}
    (hvalidator : (scenario.live number).validator = .follow path inner) :
    let answer? := fun input => scenario.answer? stages number input memory
    let innerOutcome? := inner.outcome? scenario.body stages
    (path = Path.root → answer? none = (innerOutcome? none).map
      (Outcome.mapError fun _ => .located none Path.root "path does not exist")) ∧
    (∀ segment rest, path.segments = segment :: rest → answer? none =
      some (.error (.located none (Path.ofList [segment]) "path does not exist"))) ∧
    ∀ value, (∃ depth found, path.Deepest value depth found) ∧
      ∀ depth found, path.Deepest value depth found →
        (depth = path.length → answer? (some value) = (innerOutcome? (some found)).map
          (Outcome.mapError fun fault =>
            .located (some value) (path ++ fault.path) fault.message)) ∧
        ∀ segment, path.segments[depth]? = some segment →
          (Kind.of (some found) ≠ segment.container → answer? (some value) =
            some (.error (.located (some value) (path.take (depth + 1))
              ("expected " ++ segment.container.description ++ ", got " ++
                (Kind.of (some found)).description)))) ∧
          (Kind.of (some found) = segment.container → depth + 1 = path.length →
            answer? (some value) = (innerOutcome? none).map
              (Outcome.mapError fun _ => .located (some value) path "path does not exist")) ∧
          (Kind.of (some found) = segment.container → depth + 1 < path.length →
            answer? (some value) = some (.error (.located (some value) (path.take (depth + 2))
              "path does not exist"))) := by
  intro answer? innerOutcome?
  have habsent : Check.walk Path.root path.segments none = _ := Check.walk_of_nothing 0
  refine ⟨?_, ?_, fun value => ⟨Path.exists_deepest value path, fun depth found hdeepest => ?_⟩⟩
  · rintro rfl
    exact h.answer?_of_found hvalidator habsent
  · intro segment rest hsegments
    have hlength : 0 < path.length := by
      rw [Path.length, hsegments]
      exact Nat.succ_pos _
    have hfirst : path.take (0 + 1) = Path.ofList [segment] := by
      rw [Path.take, hsegments]
      rfl
    rw [if_pos hlength, hfirst] at habsent
    exact h.answer?_of_strayed hvalidator habsent
  refine ⟨fun hend => ?_, fun segment hsegment => ?_⟩
  · exact h.answer?_of_found hvalidator (Check.walk_of_deepest_end hdeepest hend)
  have hwalk := Check.walk_of_deepest_step hdeepest hsegment
  refine ⟨fun hkind => ?_, fun hkind hlast => ?_, fun hkind hmore => ?_⟩
  · rw [if_neg hkind] at hwalk
    exact h.answer?_of_strayed hvalidator hwalk
  · have hend : ¬ depth + 1 < path.length := by omega
    rw [if_pos hkind, Check.walk_of_nothing, if_neg hend] at hwalk
    exact h.answer?_of_found hvalidator hwalk
  · rw [if_pos hkind, Check.walk_of_nothing, if_pos hmore] at hwalk
    exact h.answer?_of_strayed hvalidator hwalk

/-- Strings behind a key, an index and a key. -/
def located : Scenario :=
  ⟨fun _ => .never "not defined",
    [.follow (Path.ofList [.field "a", .index 1, .field "b"]) (.list .string)]⟩

/-- What stands at the end of the path has an item that is no string, or the key there is missing,
or it stands behind an array, or the path leads nowhere from its first step on. -/
theorem located_answers :
    located.answer? 0 0 (some (.object [("a", .array [.null,
        .object [("b", .array [.string "x", .null])]])])) located.memory =
      some (.error (.located (some (.object [("a", .array [.null,
          .object [("b", .array [.string "x", .null])]])]))
        (Path.ofList [.field "a", .index 1, .field "b", .index 1])
          "expected a string, got null")) ∧
    located.answer? 0 0 (some (.object [("a", .array [.null, .object []])])) located.memory =
      some (.error (.located (some (.object [("a", .array [.null, .object []])]))
        (Path.ofList [.field "a", .index 1, .field "b"]) "path does not exist")) ∧
    located.answer? 0 0 (some (.object [("a", .array [.null, .array []])])) located.memory =
      some (.error (.located (some (.object [("a", .array [.null, .array []])]))
        (Path.ofList [.field "a", .index 1, .field "b"]) "expected an object, got an array")) ∧
    located.answer? 0 0 (some (.object [])) located.memory =
      some (.error (.located (some (.object [])) (Path.ofList [.field "a", .index 1])
        "path does not exist")) := by
  have hstart : located.Reached located.memory := .start
  have hvalidator : (located.live 0).validator =
      .follow (Path.ofList [.field "a", .index 1, .field "b"]) (.list .string) := rfl
  obtain ⟨_, _, hvalue⟩ := answers_follow_path hstart 0 hvalidator
  refine ⟨?_, ?_, ?_, ?_⟩
  · have hdeepest : (Path.ofList [.field "a", .index 1, .field "b"]).Deepest
        (.object [("a", .array [.null, .object [("b", .array [.string "x", .null])]])]) 3
          (.array [.string "x", .null]) :=
      ⟨by decide, rfl, fun more hmore hle => absurd hle (Nat.not_le_of_lt hmore)⟩
    exact ((hvalue _).2 3 _ hdeepest).1 rfl
  · have hdeepest : (Path.ofList [.field "a", .index 1, .field "b"]).Deepest
        (.object [("a", .array [.null, .object []])]) 2 (.object []) := by
      refine ⟨by decide, rfl, fun more hmore hle => ?_⟩
      obtain rfl : more = 3 := Nat.le_antisymm hle hmore
      rfl
    exact (((hvalue _).2 2 _ hdeepest).2 (.field "b") rfl).2.1 rfl rfl
  · have hdeepest : (Path.ofList [.field "a", .index 1, .field "b"]).Deepest
        (.object [("a", .array [.null, .array []])]) 2 (.array []) := by
      refine ⟨by decide, rfl, fun more hmore hle => ?_⟩
      obtain rfl : more = 3 := Nat.le_antisymm hle hmore
      rfl
    exact (((hvalue _).2 2 _ hdeepest).2 (.field "b") rfl).1 nofun
  · have hdeepest : (Path.ofList [.field "a", .index 1, .field "b"]).Deepest (.object []) 0
        (.object []) := by
      refine ⟨by decide, rfl, fun more hmore hle => ?_⟩
      have hmore' : more = 1 ∨ more = 2 ∨ more = 3 := by
        have hle' : more ≤ 3 := hle
        omega
      rcases hmore' with rfl | rfl | rfl <;> rfl
    exact (((hvalue _).2 0 _ hdeepest).2 (.field "a") rfl).2.2 rfl (by decide)

end Scenario

end JsonValidators
