import JsonValidators.Path.Registers
import Mathlib.Data.List.Infix

/-!
Ways of building a path. Steps pushed behind one another from the root, put in front of one another
from the last to the first, collected at once, or put together from two parts come to the same path.
An operation leaves every path as it is but the one that it changes in place, and so do operations
one after another.
-/

namespace JsonValidators.Path

namespace Operation

variable {registers later : Registers} {operation : Operation} {place outer : Nat}
  {path front : Path}

/-- A path that another one is put in front of has the steps of both. -/
theorem run_prepend (hfront : registers[outer]? = some front)
    (hpath : registers[place]? = some path) :
    (prepend place outer).run registers = some (registers.set place (front ++ path)) := by
  have hmade : (prepend place outer).made? registers = some (front ++ path) := by
    rw [made?, hfront, hpath]
    rfl
  exact run_of_changed hmade rfl

/-- An operation leaves all paths as they are but the one that it changes in place. -/
theorem run_frame (hrun : operation.run registers = some later)
    (hplace : registers[place]? = some path) (htarget : operation.target? ≠ some place) :
    later[place]? = some path := by
  obtain ⟨made, -, hlater⟩ := Option.map_eq_some_iff.mp hrun
  cases hchanged : operation.target? with
  | none =>
    rw [hchanged] at hlater
    subst hlater
    rw [List.getElem?_append_left (List.getElem?_eq_some_iff.mp hplace).1, hplace]
  | some target =>
    rw [hchanged] at hlater htarget
    subst hlater
    have hne : target ≠ place := fun heq => htarget (congrArg some heq)
    rw [List.getElem?_set_ne hne, hplace]

/-- Operations one after another leave all paths as they are but those that one of them changes in
place. -/
theorem runAll_frame {operations : List Operation} (hrun : runAll operations registers = some later)
    (hplace : registers[place]? = some path)
    (htargets : ∀ operation ∈ operations, operation.target? ≠ some place) :
    later[place]? = some path := by
  induction operations generalizing registers with
  | nil =>
    obtain rfl := Option.some.inj hrun
    exact hplace
  | cons operation operations ih =>
    obtain ⟨next, hnext, hrest⟩ := Option.bind_eq_some_iff.mp hrun
    obtain ⟨htarget, htargets⟩ := List.forall_mem_cons.mp htargets
    exact ih hrest (run_frame hnext hplace htarget) htargets

end Operation

open Operation

/-- Push steps in order, the first behind the path in a register and each other one behind the path
that was made last, which is in the next register. -/
def pushing : Nat → List Segment → List Operation
  | _, [] => []
  | source, segment :: segments => .push source segment :: pushing (source + 1) segments

/-- Put steps in front of the path in a register, from the last to the first. -/
def prepending (target : Nat) (segments : List Segment) : List Operation :=
  segments.reverse.map (.prependSegment target)

variable {registers : Registers} {place : Nat} {path : Path}

/-- Every push leaves the paths that it started from, so there is one for each number of steps. -/
theorem runAll_pushing (registers : Registers) (path : Path) (segments : List Segment) :
    runAll (pushing registers.length segments) (registers ++ [path]) =
      some (registers ++ segments.inits.map fun front => path ++ ofList front) := by
  induction segments generalizing registers path with
  | nil =>
    rw [pushing, runAll, List.inits, List.map_singleton]
    exact congrArg (fun path => some (registers ++ [path])) (append_root path).symm
  | cons segment segments ih =>
    have hmade : (Operation.push registers.length segment).made? (registers ++ [path]) =
        some (path.push segment) := by
      rw [made?, List.getElem?_concat_length]
      rfl
    have hrest := ih (registers ++ [path]) (path.push segment)
    rw [List.length_append, List.length_singleton] at hrest
    have hfront : ∀ front, path.push segment ++ ofList front = path ++ ofList (segment :: front) :=
      fun front => append_assoc path (ofList [segment]) (ofList front)
    have hnone : path ++ ofList [] = path := append_root path
    rw [pushing, runAll, run_of_made hmade rfl, Option.bind_some, hrest, List.inits_cons,
      List.map_cons, List.map_map, hnone, List.append_assoc]
    simp only [hfront, Function.comp_def, List.singleton_append]

/-- Steps in front, from the last to the first, are there in order. -/
theorem runAll_prepending (hplace : registers[place]? = some path) (segments : List Segment) :
    runAll (prepending place segments) registers =
      some (registers.set place (ofList segments ++ path)) := by
  obtain ⟨hlength, hpath⟩ := List.getElem?_eq_some_iff.mp hplace
  induction segments with
  | nil =>
    rw [← hpath]
    exact congrArg some (List.set_getElem_self hlength).symm
  | cons segment segments ih =>
    have hmade : (Operation.prependSegment place segment).made?
        (registers.set place (ofList segments ++ path)) =
          some (cons segment (ofList segments ++ path)) := by
      rw [made?, List.getElem?_set_self hlength]
      rfl
    rw [prepending, List.reverse_cons, List.map_append, runAll_append, ← prepending, ih,
      Option.bind_some, List.map_singleton, runAll, run_of_changed hmade rfl, List.set_set]
    rfl

/-- The path of the last steps, behind the path of the first. -/
theorem runAll_halves (registers : Registers) (before after : List Segment) :
    runAll [.collect after, .collect before,
        .prepend registers.length (registers.length + 1)] registers =
      some (registers ++ [ofList (before ++ after), ofList before]) := by
  have hafter : (registers ++ [ofList after] ++ [ofList before])[registers.length]? =
      some (ofList after) := by simp
  have hbefore : (registers ++ [ofList after] ++ [ofList before])[registers.length + 1]? =
      some (ofList before) := by simp
  rw [runAll, run_of_made rfl rfl, Option.bind_some, runAll, run_of_made rfl rfl, Option.bind_some,
    runAll, run_prepend hbefore hafter, Option.bind_some, runAll, List.append_assoc,
    List.set_append_right _ _ (Nat.le_refl _), Nat.sub_self]
  rfl

/-- The last of the paths that pushes leave is the whole one. -/
theorem getLast?_inits (segments : List Segment) :
    (segments.inits.map ofList).getLast? = some (ofList segments) := by
  have hlength : segments.length < segments.inits.length := by
    rw [List.length_inits]
    exact Nat.lt_succ_self segments.length
  rw [List.getLast?_map, List.getLast?_eq_getElem?, List.length_inits, Nat.add_sub_cancel,
    List.getElem?_eq_getElem hlength, List.getElem_inits, List.take_length]
  rfl

/-- However a path is built, it is the same one: by pushing its steps in order from the root, by
putting them in front of the root from the last to the first, by collecting them, or by putting the
path of the first steps in front of that of the others. Its steps, its length and its text are put
together from those of the parts. Putting a path in front of another one is associative, with the
root as identity. Whatever is done, the paths that are there stay as they are, but for those that are
changed in place. -/
theorem builds_agree (registers : Registers) (before after : List Segment) :
    runAll (.root :: pushing registers.length (before ++ after)) registers =
        some (registers ++ (before ++ after).inits.map ofList) ∧
      ((before ++ after).inits.map ofList).getLast? = some (ofList (before ++ after)) ∧
      runAll (.root :: prepending registers.length (before ++ after)) registers =
        some (registers ++ [ofList (before ++ after)]) ∧
      runAll [.collect (before ++ after)] registers =
        some (registers ++ [ofList (before ++ after)]) ∧
      runAll [.collect after, .collect before,
          .prepend registers.length (registers.length + 1)] registers =
        some (registers ++ [ofList (before ++ after), ofList before]) ∧
      (ofList (before ++ after)).segments = before ++ after ∧
      (ofList (before ++ after)).length = (before ++ after).length ∧
      (ofList (before ++ after)).text = (ofList before).text ++ (ofList after).text ∧
      (∀ target outer front path, registers[outer]? = some front → registers[target]? = some path →
        (Operation.prepend target outer).run registers =
          some (registers.set target (front ++ path))) ∧
      (∀ outer middle inner : Path, outer ++ middle ++ inner = outer ++ (middle ++ inner)) ∧
      (∀ path : Path, root ++ path = path ∧ path ++ root = path) ∧
      ∀ operations later, runAll operations registers = some later →
        ∀ place path, registers[place]? = some path →
          (∀ operation ∈ operations, operation.target? ≠ some place) →
            later[place]? = some path := by
  have hroot : (registers ++ [root])[registers.length]? = some root :=
    List.getElem?_concat_length
  refine ⟨?_, getLast?_inits (before ++ after), ?_, rfl,
    runAll_halves registers before after, rfl, rfl, text_append _ _, ?_, append_assoc,
    fun path => ⟨root_append path, append_root path⟩, ?_⟩
  · rw [runAll, run_of_made rfl rfl, Option.bind_some, runAll_pushing]
    rfl
  · rw [runAll, run_of_made rfl rfl, Option.bind_some, runAll_prepending hroot, append_root,
      List.set_append_right _ _ (Nat.le_refl _), Nat.sub_self]
    rfl
  · exact fun target outer front path hfront hpath => run_prepend hfront hpath
  · exact fun operations later hrun place path hplace htargets =>
      runAll_frame hrun hplace htargets

/-- The path that is pushed to stays, and so does the one that is put in front. -/
example : runAll [.collect [.index 1], .root, .push 1 (.field "a"), .prepend 0 2] [] =
    some [ofList [.field "a", .index 1], root, ofList [.field "a"]] := rfl

end JsonValidators.Path
