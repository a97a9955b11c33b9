import JsonValidators.Proofs.Locations
import JsonValidators.Proofs.Walks

/-!
Paths behind paths. A validator that follows a path and then another one goes where the two in a
row lead, and locates what it finds there in the same way. Only if nothing is found at the end of
the first path are there two places to report: this end, or the step of the second path behind it.
-/

namespace JsonValidators

/-- Nothing is found at the end of a path: its last step leads into a value, but to no other one.
Without an input that is so of the root. -/
inductive Path.Misses : Option Json → Path → Prop
  | absent : Misses none root
  | behind {value found : Json} {front : Path} {segment : Segment} :
      front.resolve value = some found → Kind.of (some found) = segment.container →
        step found segment = none → Misses (some value) (front.push segment)

theorem Path.push_ne_self (path : Path) (segment : Segment) : path.push segment ≠ path := by
  intro heq
  have hlength := congrArg (fun path => path.segments.length) heq
  simp at hlength

/-- A path that is not the root has a first step. -/
theorem Path.exists_step {path : Path} (h : path ≠ root) :
    ∃ segment rest, path.segments = segment :: rest := by
  obtain ⟨_ | ⟨segment, rest⟩⟩ := path
  · exact absurd rfl h
  · exact ⟨segment, rest, rfl⟩

namespace Check

open Run

variable {σ : Type} {outer inner : Path} {input : Option Json}

/-- A walk from behind a path reports the path in front. -/
theorem walk_under (outer walked : Path) (segments : List Segment) (current : Option Json) :
    walk (outer ++ walked) segments current =
      (walk walked segments current).mapError (Fault.underPath outer) := by
  induction segments generalizing walked current with
  | nil => rfl
  | cons segment segments ih =>
    have hpush : (outer ++ walked).push segment = outer ++ walked.push segment :=
      Path.append_assoc outer walked (Path.ofList [segment])
    cases current with
    | none => exact congrArg (fun path => Except.error (Fault.mk path .nowhere)) hpush
    | some value =>
      rw [walk_cons, walk_cons, hpush, ih]
      split <;> rfl

/-- A walk along two paths in a row goes on from where the first one leads. -/
theorem walk_onward (walked : Path) (front back : List Segment) (current : Option Json) :
    walk walked (front ++ back) current =
      (walk walked front current).bind fun found => walk (walked ++ ⟨front⟩) back found := by
  induction front generalizing walked current with
  | nil => exact congrArg (walk · back current) (Path.append_root walked).symm
  | cons segment front ih =>
    have hpush : walked.push segment ++ ⟨front⟩ = walked ++ ⟨segment :: front⟩ :=
      Path.append_assoc walked (Path.ofList [segment]) ⟨front⟩
    cases current with
    | none => rfl
    | some value =>
      rw [List.cons_append, walk_cons, walk_cons]
      split
      · rw [ih, hpush]
      · rfl

theorem walk_append_of_found {found : Option Json} (inner : Path)
    (h : walk Path.root outer.segments input = .ok found) :
    walk Path.root (outer ++ inner).segments input =
      (walk Path.root inner.segments found).mapError (Fault.underPath outer) := by
  have hunder := walk_under outer Path.root inner.segments found
  rw [Path.append_root] at hunder
  rw [Path.segments_append, walk_onward, h]
  exact hunder

theorem walk_append_of_strayed {fault : Fault} (inner : Path)
    (h : walk Path.root outer.segments input = .error fault) :
    walk Path.root (outer ++ inner).segments input = .error fault := by
  rw [Path.segments_append, walk_onward, h]
  rfl

/-- A walk finds nothing exactly at the end of a path that misses. -/
theorem walk_eq_nothing_iff {path : Path} :
    walk Path.root path.segments input = .ok none ↔ path.Misses input := by
  constructor
  · intro h
    cases input with
    | none =>
      obtain ⟨_ | ⟨segment, segments⟩⟩ := path
      · exact .absent
      · cases h
    | some value =>
      obtain ⟨front, segment, found, hsplit, hfound⟩ := resolve_init_of_walk h
      obtain rfl : path = Path.push ⟨front⟩ segment := congrArg Path.mk hsplit
      rw [Path.segments_push, walk_append hfound, walk_cons] at h
      split at h
      · next hkind => exact .behind hfound hkind (Except.ok.inj h)
      · cases h
  · rintro (_ | ⟨hfound, hkind, hstep⟩)
    · rfl
    · rw [Path.segments_push, walk_append hfound, walk_cons, if_pos hkind, hstep]
      rfl

theorem follow_of_found {path : Path} {check : Check σ} {found : Option Json}
    (h : walk Path.root path.segments input = .ok found) :
    follow path check input = (check found).mapFault (locatedFault path found) := by
  rw [follow, h]

theorem follow_of_strayed {path : Path} {check : Check σ} {fault : Fault}
    (h : walk Path.root path.segments input = .error fault) :
    follow path check input = ofFault fault := by
  rw [follow, h]

/-- From a value that the first path leads to, the second is followed. -/
theorem follow_append_of_found {found : Json} (check : Check σ)
    (h : walk Path.root outer.segments input = .ok (some found)) :
    follow (outer ++ inner) check input =
      (follow inner check (some found)).mapFault (Fault.underPath outer) := by
  have hwalk := walk_append_of_found inner h
  cases htarget : walk Path.root inner.segments (some found) with
  | ok target =>
    rw [htarget] at hwalk
    rw [follow_of_found hwalk, follow_of_found htarget, mapFault_mapFault]
    refine congrArg (mapFault · _) (funext fun fault => ?_)
    cases target with
    | none => rfl
    | some value => exact (Fault.underPath_underPath outer inner fault).symm
  | error fault =>
    rw [htarget] at hwalk
    rw [follow_of_strayed hwalk, follow_of_strayed htarget, mapFault_ofFault]

/-- Unless nothing is found at the end of the first path and there is a second one, it does not
matter whether two paths are followed as one. -/
theorem follow_append (check : Check σ) (h : inner = Path.root ∨ ¬ outer.Misses input) :
    follow (outer ++ inner) check input = follow outer (follow inner check) input := by
  cases hwalk : walk Path.root outer.segments input with
  | error fault =>
    rw [follow_of_strayed hwalk, follow_of_strayed (walk_append_of_strayed inner hwalk)]
  | ok found =>
    cases found with
    | some value => rw [follow_append_of_found check hwalk, follow_of_found hwalk]; rfl
    | none =>
      rcases h with rfl | hmisses
      · have hroot : walk Path.root Path.root.segments none = .ok none := rfl
        rw [Path.append_root, follow_of_found hwalk, follow_of_found hwalk,
          follow_of_found hroot, mapFault_mapFault]
        rfl
      · exact absurd (walk_eq_nothing_iff.mp hwalk) hmisses

/-- Where nothing is found at the end of the first path, the first step behind it is reported if
the paths are followed as one, and the end itself if the second is followed behind the first. -/
theorem follow_append_of_misses {segment : Segment} {rest : List Segment} (check : Check σ)
    (h : outer.Misses input) (hinner : inner.segments = segment :: rest) :
    follow (outer ++ inner) check input = ofFault ⟨outer.push segment, .nowhere⟩ ∧
      follow outer (follow inner check) input = ofFault ⟨outer, .nowhere⟩ := by
  have hwalk := walk_eq_nothing_iff.mpr h
  have happend := walk_append_of_found inner hwalk
  have hnothing : walk Path.root inner.segments none =
      .error ⟨Path.ofList [segment], .nowhere⟩ := by
    rw [hinner]
    rfl
  rw [hnothing] at happend
  constructor
  · exact follow_of_strayed happend
  · rw [follow_of_found hwalk, follow_of_strayed hnothing]
    rfl

/-- Two paths followed as one, or the second behind the first, lead to the same values. -/
theorem value?_follow_append (outer inner : Path) (check : Check σ) (input : Option Json) :
    (follow (outer ++ inner) check input).value? =
      (follow outer (follow inner check) input).value? := by
  by_cases hsame : inner = Path.root ∨ ¬ outer.Misses input
  · rw [follow_append check hsame]
  · obtain ⟨hne, hmisses⟩ := not_or.mp hsame
    obtain ⟨segment, rest, hinner⟩ := Path.exists_step hne
    obtain ⟨hflat, hnested⟩ := follow_append_of_misses check (not_not.mp hmisses) hinner
    rw [hflat, hnested, value?_ofFault, value?_ofFault]

/-- The state that is left behind is the same. -/
theorem map_snd_follow_append (outer inner : Path) (check : Check σ) (input : Option Json)
    (state : σ) : (follow (outer ++ inner) check input state).map Prod.snd =
      (follow outer (follow inner check) input state).map Prod.snd := by
  rw [← map_snd_value?, value?_follow_append, map_snd_value?]

end Check

namespace Scenario

/-- A validator may follow two paths as one or the second behind the first. Whatever has been
checked before, the answers are the same, with the same path in a failure, but in one situation:
nothing is found at the end of the first path, and the second path has a step. Then both say that
the path does not exist, one of them at the first step of the second path and the other at the end
of the first. In the same memory cells they always leave the same behind. -/
theorem answers_follow_append {scenario : Scenario} {memory later : Memory}
    (h : scenario.Reached memory) (hlater : scenario.Reached later) {outer inner : Path}
    {validator : Validator} {flat nested : Nat}
    (hflat : (scenario.live flat).validator = .follow (outer ++ inner) validator)
    (hnested : (scenario.live nested).validator = .follow outer (.follow inner validator)) :
    (∀ stages input, inner = Path.root ∨ ¬ outer.Misses input →
      scenario.answer? stages flat input memory = scenario.answer? stages nested input later) ∧
    (∀ stages input segment rest, outer.Misses input → inner.segments = segment :: rest →
      scenario.answer? stages flat input memory =
        some (.error (.located input (outer.push segment) "path does not exist")) ∧
      scenario.answer? stages nested input later =
        some (.error (.located input outer "path does not exist")) ∧
      outer.push segment ≠ outer) ∧
    ∀ library base input memory,
      ((Live.mk (.follow (outer ++ inner) validator) base).check library input memory).map
          Prod.snd =
        ((Live.mk (.follow outer (.follow inner validator)) base).check library input memory).map
          Prod.snd := by
  refine ⟨fun stages input hsame => ?_, fun stages input segment rest hmisses hinner => ?_,
    fun library base input memory => ?_⟩
  · refine h.answer?_congr hlater ?_
    rw [hflat, hnested, Validator.interpret, Validator.interpret, Validator.interpret,
      Check.follow_append _ hsame]
  · obtain ⟨hfirst, hsecond⟩ := Check.follow_append_of_misses
      (validator.interpret (.forgetful scenario.body stages) 0) hmisses hinner
    refine ⟨?_, ?_, Path.push_ne_self outer segment⟩
    · rw [h.answer?_eq, hflat, Validator.outcome?, Validator.interpret, hfirst]
      rfl
    · rw [hlater.answer?_eq, hnested, Validator.outcome?, Validator.interpret,
        Validator.interpret, hsecond]
      rfl
  · rw [Live.check, Live.check, Live.interpret, Live.interpret, Validator.interpret,
      Validator.interpret, Validator.interpret, Option.map_map, Option.map_map]
    exact Check.map_snd_follow_append outer inner _ input memory

/-- An optional string behind a key, an index and a key, and behind the key behind the others. -/
def detoured : Scenario :=
  ⟨fun _ => .never "not defined",
    [.follow (Path.ofList [.field "a", .index 1] ++ Path.ofList [.field "b"]) (.optional .string),
      .follow (Path.ofList [.field "a", .index 1])
        (.follow (Path.ofList [.field "b"]) (.optional .string))]⟩

/-- A value that is no string is reported at the end of both paths, and an item that is missing at
two places. -/
theorem detoured_answers :
    detoured.answer? 0 1 (some (.object [("a", .array [.null, .object [("b", .null)]])]))
        detoured.memory =
      some (.error (.located (some (.object [("a", .array [.null, .object [("b", .null)]])]))
        (Path.ofList [.field "a", .index 1, .field "b"]) "expected a string, got null")) ∧
    detoured.answer? 0 0 (some (.object [("a", .array [.null])])) detoured.memory =
      some (.error (.located (some (.object [("a", .array [.null])]))
        (Path.ofList [.field "a", .index 1, .field "b"]) "path does not exist")) ∧
    detoured.answer? 0 1 (some (.object [("a", .array [.null])])) detoured.memory =
      some (.error (.located (some (.object [("a", .array [.null])]))
        (Path.ofList [.field "a", .index 1]) "path does not exist")) := by
  have hstart : detoured.Reached detoured.memory := .start
  have hflat : (detoured.live 0).validator = .follow
      (Path.ofList [.field "a", .index 1] ++ Path.ofList [.field "b"]) (.optional .string) := rfl
  have hnested : (detoured.live 1).validator = .follow (Path.ofList [.field "a", .index 1])
      (.follow (Path.ofList [.field "b"]) (.optional .string)) := rfl
  obtain ⟨hsame, hdiffer, _⟩ := answers_follow_append hstart hstart hflat hnested
  have hfound : ¬ (Path.ofList [.field "a", .index 1]).Misses
      (some (.object [("a", .array [.null, .object [("b", .null)]])])) := by
    intro hmisses
    cases Check.walk_eq_nothing_iff.mpr hmisses
  have hmissing : (Path.push (Path.ofList [.field "a"]) (.index 1)).Misses
      (some (.object [("a", .array [.null])])) := .behind rfl rfl rfl
  obtain ⟨hfirst, hsecond, _⟩ := hdiffer 0 _ (.field "b") [] hmissing rfl
  exact ⟨(hsame 0 _ (.inr hfound)).symm.trans rfl, hfirst, hsecond⟩

end Scenario

end JsonValidators
