import JsonValidators.Proofs.Grouping

/-!
Alternatives without their faults. What alternatives produce is what the first of them produces
that passes, so it does not matter how they are put into groups, and their order only matters to
which one is the first. A fallback is an alternative that always passes behind another one.
-/

namespace JsonValidators

namespace Check

open Run

variable {σ : Type}

/-- The value of the first alternative that passes, if one does. -/
def choice (input : Option Json) : List (Check σ) → Run σ (Option Output)
  | [] => ofValue none
  | branch :: branches => (branch input).value?.bind fun
      | some output => ofValue (some output)
      | none => choice input branches

theorem value?_alternatives (input : Option Json) (entries : List String)
    (branches : List (Check σ)) :
    (alternatives input entries branches).value? = choice input branches := by
  induction branches generalizing entries with
  | nil => rfl
  | cons branch branches ih =>
    funext state
    unfold choice alternatives value? Run.bind settle
    rcases branch input state with - | ⟨fault | output, last⟩
    · rfl
    · exact congrFun (ih (entries ++ [fault.entry])) last
    · rfl

theorem value?_firstOf (input : Option Json) (branches : List (Check σ)) :
    (firstOf branches input).value? = choice input branches := value?_alternatives input [] branches

theorem choice_append (input : Option Json) (first second : List (Check σ)) :
    choice input (first ++ second) = (choice input first).bind fun
      | some output => ofValue (some output)
      | none => choice input second := by
  induction first with
  | nil => rfl
  | cons branch first ih =>
    rw [List.cons_append, choice, choice, ih, bind_bind]
    refine congrArg _ (funext fun value => ?_)
    cases value <;> rfl

/-- An alternative that is made of alternatives is as good as these. -/
theorem choice_firstOf_cons (input : Option Json) (members branches : List (Check σ)) :
    choice input (firstOf members :: branches) = choice input (members ++ branches) := by
  rw [choice_append, choice, value?_firstOf]

/-- If all alternatives end, the first that passes is found. -/
theorem choice_eq_findSome? {input : Option Json} {branches : List (Check Unit)}
    (hends : ∀ branch ∈ branches, ∃ outcome, branch input () = some (outcome, ())) :
    choice input branches () = some (.ok (branches.findSome? fun branch =>
      (branch input ()).bind fun ending => ending.1.value?), ()) := by
  induction branches with
  | nil => rfl
  | cons branch branches ih =>
    obtain ⟨⟨outcome, houtcome⟩, hrest⟩ := List.forall_mem_cons.mp hends
    have hvalue : (branch input).value? () = some (.ok outcome.value?, ()) := by
      rw [value?_apply, houtcome]
      rfl
    unfold choice Run.bind settle
    rw [hvalue, List.findSome?_cons, houtcome]
    cases outcome with
    | ok output => rfl
    | error fault => exact ih hrest

/-- A fallback is behind its check as an alternative that always passes. -/
theorem fallback_eq_firstOf (default : Output) (inner : Check σ) :
    fallback default inner = firstOf [inner, always default] := by
  funext input state
  unfold fallback firstOf alternatives settle
  rcases inner input state with - | ⟨fault | output, last⟩ <;> rfl

/-- Behind a fallback no alternative is reached. -/
theorem firstOf_fallback (before after : List (Check σ)) (default : Output) (inner : Check σ) :
    firstOf (before ++ fallback default inner :: after) =
      firstOf (before ++ [fallback default inner]) := by
  funext input
  suffices halternatives : ∀ entries,
      alternatives input entries (before ++ fallback default inner :: after) =
        alternatives input entries (before ++ [fallback default inner]) from halternatives []
  induction before with
  | nil =>
    intro entries
    funext state
    rw [List.nil_append, List.nil_append]
    unfold alternatives fallback settle
    rcases inner input state with - | ⟨outcome, last⟩ <;> rfl
  | cons branch before ih =>
    intro entries
    funext state
    rw [List.cons_append, List.cons_append]
    unfold alternatives settle
    rcases branch input state with - | ⟨fault | output, last⟩
    · rfl
    · exact congrFun (ih (entries ++ [fault.entry])) last
    · rfl

end Check

/-- The first list is the second with alternatives that stand side by side put together into
alternatives of their own, at any depth. A group may be empty. -/
inductive Gathered : List Validator → List Validator → Prop
  | nil : Gathered [] []
  | branch (branch : Validator) {gathered branches : List Validator} :
      Gathered gathered branches → Gathered (branch :: gathered) (branch :: branches)
  | group {members inner gathered branches : List Validator} :
      Gathered members inner → Gathered gathered branches →
        Gathered (.firstOf members :: gathered) (inner ++ branches)

namespace Gathered

open Validator

variable {σ : Type} {gathered branches : List Validator}

theorem refl (branches : List Validator) : Gathered branches branches := by
  induction branches with
  | nil => exact .nil
  | cons branch branches ih => exact .branch branch ih

/-- A group without any alternative may stand anywhere. -/
theorem insert_empty (before after : List Validator) :
    Gathered (before ++ firstOf [] :: after) (before ++ after) := by
  induction before with
  | nil => exact .group .nil (refl after)
  | cons branch before ih => exact .branch branch ih

theorem listCells_eq (h : Gathered gathered branches) :
    listCells gathered = listCells branches := by
  induction h with
  | nil => rfl
  | branch branch _ ih => rw [listCells, listCells, ih]
  | group _ _ ihmembers ih => rw [listCells, cells, ihmembers, ih, listCells_append]

/-- Alternatives in groups are tried in the order they have without them, and with the same memo
cells. -/
theorem choice_eq (h : Gathered gathered branches) (make : Construction σ) (base : Nat)
    (input : Option Json) : Check.choice input (interpretList make gathered base) =
      Check.choice input (interpretList make branches base) := by
  induction h generalizing base with
  | nil => rfl
  | branch branch _ ih =>
    rw [interpretList, interpretList, Check.choice, Check.choice]
    refine congrArg _ (funext fun value => ?_)
    cases value with
    | none => exact ih _
    | some output => rfl
  | group hmembers _ ihmembers ih =>
    rw [interpretList, interpret, Check.choice_firstOf_cons, Check.choice_append, ihmembers,
      interpretList_append, Check.choice_append, cells, hmembers.listCells_eq]
    refine congrArg _ (funext fun value => ?_)
    cases value with
    | none => exact ih _
    | some output => rfl

theorem value?_interpret (h : Gathered gathered branches) (make : Construction σ) (base : Nat)
    (input : Option Json) : (interpret make (firstOf gathered) base input).value? =
      (interpret make (firstOf branches) base input).value? := by
  rw [interpret, interpret, Check.value?_firstOf, Check.value?_firstOf, h.choice_eq]

end Gathered

namespace Validator

variable {σ : Type} (make : Construction σ)

theorem interpret_fallback (default : Output) (inner : Validator) (base : Nat) :
    interpret make (fallback default inner) base =
      interpret make (firstOf [inner, always default]) base := by
  rw [interpret, interpret, Check.fallback_eq_firstOf, interpretList, interpretList, interpretList,
    interpret]

theorem interpret_firstOf_fallback (before after : List Validator) (default : Output)
    (inner : Validator) (base : Nat) :
    interpret make (firstOf (before ++ fallback default inner :: after)) base =
      interpret make (firstOf (before ++ [fallback default inner])) base := by
  rw [interpret, interpret, interpretList_append, interpretList_append, interpretList,
    interpretList, interpret, Check.firstOf_fallback, interpretList]

/-- What a validator by itself produces, if it passes. -/
def produced? (body : String → Validator) (stages : Nat) (validator : Validator)
    (input : Option Json) : Option Output :=
  (validator.outcome? body stages input).bind Outcome.value?

variable {body : String → Validator} {stages : Nat} {input : Option Json}

theorem produced?_eq_some_iff {validator : Validator} {output : Output} :
    validator.produced? body stages input = some output ↔
      validator.outcome? body stages input = some (.ok output) := by
  rw [produced?, Option.bind_eq_some_iff]
  constructor
  · rintro ⟨fault | value, houtcome, hvalue⟩
    · cases hvalue
    · cases hvalue
      exact houtcome
  · exact fun houtcome => ⟨_, houtcome, rfl⟩

theorem map_value?_outcome? (validator : Validator) :
    (validator.outcome? body stages input).map Outcome.value? =
      ((interpret (.forgetful body stages) validator 0 input).value? ()).map
        fun ending => ending.1.value?.join := by
  rw [outcome?, Option.map_map, ← Run.map_value?]
  rfl

/-- If all alternatives end, they come to what the first of them produces that passes. -/
theorem map_value?_outcome?_firstOf {branches : List Validator}
    (hends : ∀ branch ∈ branches, ∃ outcome, branch.outcome? body stages input = some outcome) :
    ((firstOf branches).outcome? body stages input).map Outcome.value? =
      some (branches.findSome? fun branch => branch.produced? body stages input) := by
  have hruns : ∀ check ∈ branches.map fun branch => interpret (.forgetful body stages) branch 0,
      ∃ outcome, check input () = some (outcome, ()) := by
    intro check hcheck
    obtain ⟨branch, hbranch, rfl⟩ := List.mem_map.mp hcheck
    obtain ⟨outcome, houtcome⟩ := hends branch hbranch
    exact ⟨outcome, run_of_outcome? houtcome⟩
  have hproduced : ∀ branch, (interpret (.forgetful body stages) branch 0 input ()).bind
      (fun ending => ending.1.value?) = branch.produced? body stages input := by
    intro branch
    rw [produced?, outcome?, Option.bind_map]
    rfl
  rw [map_value?_outcome?, (Construction.forgetful_placeless body stages).interpret_firstOf,
    Check.value?_firstOf, Check.choice_eq_findSome? hruns, List.findSome?_map]
  simp only [Function.comp_def, hproduced]
  rfl

/-- If all alternatives end, they pass exactly if one of them does. -/
theorem exists_outcome?_firstOf_ok_iff {branches : List Validator}
    (hends : ∀ branch ∈ branches, ∃ outcome, branch.outcome? body stages input = some outcome) :
    (∃ output, (firstOf branches).outcome? body stages input = some (.ok output)) ↔
      ∃ branch ∈ branches, ∃ output, branch.outcome? body stages input = some (.ok output) := by
  have hfirst : (firstOf branches).produced? body stages input =
      branches.findSome? fun branch => branch.produced? body stages input := by
    obtain ⟨outcome, houtcome, hvalue⟩ :=
      Option.map_eq_some_iff.mp (map_value?_outcome?_firstOf hends)
    rw [produced?, houtcome]
    exact hvalue
  simp only [← produced?_eq_some_iff, hfirst, ← Option.isSome_iff_exists,
    List.findSome?_isSome_iff]

end Validator

namespace Scenario

/-- What a check produces, if it passes, the validator by itself produces. -/
theorem Reached.map_value?_answer? {scenario : Scenario} {memory : Memory}
    (h : scenario.Reached memory) (stages number : Nat) (input : Option Json) :
    (scenario.answer? stages number input memory).map Outcome.value? =
      ((scenario.live number).validator.outcome? scenario.body stages input).map
        Outcome.value? := by
  rw [h.answer?_eq, Option.map_map]
  refine congrArg (Option.map · _) (funext fun outcome => ?_)
  cases outcome <;> rfl

theorem Reached.exists_ok_iff {scenario : Scenario} {memory : Memory}
    (h : scenario.Reached memory) {stages number : Nat} {input : Option Json} :
    (∃ output, scenario.answer? stages number input memory = some (.ok output)) ↔
      ∃ output, (scenario.live number).validator.outcome? scenario.body stages input =
        some (.ok output) := exists_congr fun _ => h.answer?_ok_iff

/-- Whatever has been checked before, alternatives that all end come to what the first of them
produces that passes; so they pass exactly if one of them does, in any order. Put into groups, at
any depth, they pass on the same inputs and produce the same, and a group without any makes no
difference. A fallback says what its check and, behind it, an alternative that always passes say;
so alternatives behind it are not reached, and in the same memory cells leave nothing behind. -/
theorem answers_of_alternatives {scenario : Scenario} {memory later : Memory}
    (h : scenario.Reached memory) (hlater : scenario.Reached later) :
    (∀ {number : Nat} {branches : List Validator},
      (scenario.live number).validator = .firstOf branches → ∀ stages input,
        (∀ branch ∈ branches, ∃ outcome,
          branch.outcome? scenario.body stages input = some outcome) →
        (scenario.answer? stages number input memory).map Outcome.value? =
          some (branches.findSome? fun branch => branch.produced? scenario.body stages input) ∧
        ((∃ output, scenario.answer? stages number input memory = some (.ok output)) ↔
          ∃ branch ∈ branches, ∃ output,
            branch.outcome? scenario.body stages input = some (.ok output)) ∧
        ∀ {other : Nat} {permuted : List Validator}, permuted.Perm branches →
          (scenario.live other).validator = .firstOf permuted →
          ((∃ output, scenario.answer? stages other input later = some (.ok output)) ↔
            ∃ output, scenario.answer? stages number input memory = some (.ok output))) ∧
    (∀ {nested flat : Nat} {gathered branches : List Validator}, Gathered gathered branches →
      (scenario.live nested).validator = .firstOf gathered →
      (scenario.live flat).validator = .firstOf branches → ∀ stages input,
        (scenario.answer? stages nested input memory).map Outcome.value? =
          (scenario.answer? stages flat input later).map Outcome.value?) ∧
    (∀ {first second : Nat} {before after : List Validator},
      (scenario.live first).validator = .firstOf (before ++ .firstOf [] :: after) →
      (scenario.live second).validator = .firstOf (before ++ after) → ∀ stages input,
        (scenario.answer? stages first input memory).map Outcome.value? =
          (scenario.answer? stages second input later).map Outcome.value?) ∧
    (∀ {first second : Nat} {default : Output} {inner : Validator},
      (scenario.live first).validator = .fallback default inner →
      (scenario.live second).validator = .firstOf [inner, .always default] → ∀ stages input,
        scenario.answer? stages first input memory =
          scenario.answer? stages second input later) ∧
    ∀ {before after : List Validator} {default : Output} {inner : Validator},
      (∀ {first second : Nat},
        (scenario.live first).validator =
          .firstOf (before ++ .fallback default inner :: after) →
        (scenario.live second).validator = .firstOf (before ++ [.fallback default inner]) →
        ∀ stages input, scenario.answer? stages first input memory =
          scenario.answer? stages second input later) ∧
      ∀ library base input memory,
        (Live.mk (.firstOf (before ++ .fallback default inner :: after)) base).check library input
            memory =
          (Live.mk (.firstOf (before ++ [.fallback default inner])) base).check library input
            memory := by
  have hgathered : ∀ {nested flat : Nat} {gathered branches : List Validator},
      Gathered gathered branches → (scenario.live nested).validator = .firstOf gathered →
      (scenario.live flat).validator = .firstOf branches → ∀ stages input,
        (scenario.answer? stages nested input memory).map Outcome.value? =
          (scenario.answer? stages flat input later).map Outcome.value? := by
    intro nested flat gathered branches hsame hnested hflat stages input
    rw [h.map_value?_answer?, hlater.map_value?_answer?, hnested, hflat,
      Validator.map_value?_outcome?, Validator.map_value?_outcome?, hsame.value?_interpret]
  refine ⟨fun hnumber stages input hends => ⟨?_, ?_, fun hperm hother => ?_⟩, hgathered,
    hgathered (.insert_empty _ _), fun hfirst hsecond stages input => ?_,
    fun {before after default inner} => ⟨fun hfirst hsecond stages input => ?_,
      fun library base input memory => ?_⟩⟩
  · rw [h.map_value?_answer?, hnumber, Validator.map_value?_outcome?_firstOf hends]
  · rw [h.exists_ok_iff, hnumber, Validator.exists_outcome?_firstOf_ok_iff hends]
  · have hends' := fun branch hbranch => hends branch (hperm.mem_iff.mp hbranch)
    rw [h.exists_ok_iff, hlater.exists_ok_iff, hnumber, hother,
      Validator.exists_outcome?_firstOf_ok_iff hends,
      Validator.exists_outcome?_firstOf_ok_iff hends']
    simp only [hperm.mem_iff]
  · refine h.answer?_congr hlater ?_
    rw [hfirst, hsecond, Validator.interpret_fallback]
  · refine h.answer?_congr hlater ?_
    rw [hfirst, hsecond, Validator.interpret_firstOf_fallback]
  · rw [Live.check, Live.check, Live.interpret, Live.interpret,
      Validator.interpret_firstOf_fallback]

/-- Lists of strings, arrays and numbers, in two orders and in groups; and numbers or null. -/
def ranked : Scenario :=
  ⟨fun _ => .never "not defined",
    [.firstOf [.list .string, .array, .number], .firstOf [.array, .number, .list .string],
      .firstOf [.list .string, .firstOf [.firstOf [], .firstOf [.array], .number]],
      .firstOf [.list .string, .firstOf [], .array, .number], .fallback (.json .null) .number,
      .firstOf [.number, .always (.json .null)],
      .firstOf [.string, .fallback (.json .null) .number, .boolean],
      .firstOf [.string, .fallback (.json .null) .number]]⟩

/-- A list of strings is one where lists are tried first. In another order it passes as well, but as
an array; and in groups it is the same list, where null still fails. Null stands for what is no
number, also in place of a Boolean. -/
theorem ranked_answers :
    (ranked.answer? 0 0 (some (.array [.string "x"])) ranked.memory).map Outcome.value? =
      some (some (.list [.json (.string "x")])) ∧
    (∃ output, ranked.answer? 0 0 (some (.array [.string "x"])) ranked.memory =
      some (.ok output)) ∧
    (∃ output, ranked.answer? 0 1 (some (.array [.string "x"])) ranked.memory =
      some (.ok output)) ∧
    (ranked.answer? 0 2 (some (.array [.string "x"])) ranked.memory).map Outcome.value? =
      some (some (.list [.json (.string "x")])) ∧
    (ranked.answer? 0 3 (some .null) ranked.memory).map Outcome.value? = some none ∧
    ranked.answer? 0 4 (some (.string "x")) ranked.memory = some (.ok (.json .null)) ∧
    ranked.answer? 0 6 (some (.bool true)) ranked.memory = some (.ok (.json .null)) := by
  have hstart : ranked.Reached ranked.memory := .start
  obtain ⟨hfirst, hgroups, hempty, hfallback, hbehind⟩ := answers_of_alternatives hstart hstart
  have hends : ∀ branch ∈ [Validator.list .string, .array, .number], ∃ outcome,
      branch.outcome? ranked.body 0 (some (.array [.string "x"])) = some outcome :=
    List.forall_mem_cons.mpr ⟨⟨_, rfl⟩, List.forall_mem_cons.mpr ⟨⟨_, rfl⟩,
      List.forall_mem_singleton.mpr ⟨_, rfl⟩⟩⟩
  obtain ⟨hvalue, hpasses, hpermuted⟩ := @hfirst 0 _ rfl 0 _ hends
  have hpassed := hpasses.mpr ⟨.list .string, List.mem_cons_self, _, rfl⟩
  have hperm : [Validator.array, .number, .list .string].Perm [.list .string, .array, .number] :=
    List.perm_append_singleton (Validator.list .string) [.array, .number]
  have hgathered : Gathered [.list .string, .firstOf [.firstOf [], .firstOf [.array], .number]]
      [.list .string, .array, .number] :=
    .branch _ (.group (.group .nil (.group (.branch _ .nil) (.branch _ .nil))) .nil)
  obtain ⟨hreached, _⟩ := @hbehind [.string] [.boolean] (.json .null) .number
  exact ⟨hvalue, hpassed, (@hpermuted 1 _ hperm rfl).mpr hpassed,
    (@hgroups 2 0 _ _ hgathered rfl rfl 0 _).trans hvalue,
    (@hempty 3 0 [.list .string] [.array, .number] rfl rfl 0 _).trans rfl,
    (@hfallback 4 5 _ _ rfl rfl 0 _).trans rfl,
    (@hreached 6 7 rfl rfl 0 _).trans rfl⟩

end Scenario

end JsonValidators
