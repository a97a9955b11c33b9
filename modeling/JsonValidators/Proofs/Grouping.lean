import JsonValidators.Proofs.Splitting

/-!
Intersections in groups. A merge of dictionaries that are merged already is the merge of them all,
so the parts of an intersection may be put together into intersections again, and what is merged
has every key where it comes first and with the value that comes last.
-/

namespace JsonValidators

namespace Entries

variable {α : Type}

/-- A key that is present and not stored again may get its value before the others get theirs. -/
theorem insert_merge {entries later : Entries α} {key : String} (hmem : key ∈ keys entries)
    (hlater : key ∉ keys later) (value : α) :
    insert (merge entries later) key value = merge (insert entries key value) later := by
  induction later generalizing entries with
  | nil => rfl
  | cons entry later ih =>
    obtain ⟨hname, hrest⟩ := not_or.mp (mt List.mem_cons.mpr hlater)
    have hmem' : key ∈ keys (insert entries entry.1 entry.2) := mem_keys_insert.mpr (.inr hmem)
    rw [merge_cons, merge_cons, ih hmem' hrest, insert_comm_of_mem hmem (Ne.symm hname)]

/-- Storing into what is merged is storing after the merge. -/
theorem merge_insert (entries : Entries α) {second : Entries α} (hsecond : (keys second).Nodup)
    (key : String) (value : α) :
    merge entries (insert second key value) = insert (merge entries second) key value := by
  induction second generalizing entries with
  | nil => rfl
  | cons entry second ih =>
    obtain ⟨name, old⟩ := entry
    obtain ⟨hname, hrest⟩ := List.nodup_cons.mp hsecond
    by_cases hkey : name = key
    · subst hkey
      have hmem : name ∈ keys (insert entries name old) := mem_keys_insert.mpr (.inl rfl)
      rw [insert, if_pos rfl, merge_cons, merge_cons, insert_merge hmem hname, insert_insert]
    · rw [insert, if_neg hkey, merge_cons, ih _ hrest, merge_cons]

theorem merge_assoc (first : Entries α) {second : Entries α} (hsecond : (keys second).Nodup)
    (third : List (String × α)) :
    merge (merge first second) third = merge first (merge second third) := by
  induction third generalizing second with
  | nil => rfl
  | cons entry third ih =>
    rw [merge_cons, merge_cons, ← merge_insert first hsecond, ih (nodup_keys_insert hsecond _ _)]

/-- A dictionary of pairs leaves the same behind as the pairs. -/
theorem merge_ofList (entries : Entries α) (pairs : List (String × α)) :
    merge entries (ofList pairs) = merge entries pairs := by
  have hnil : (keys ([] : Entries α)).Nodup := List.nodup_nil
  exact (merge_assoc entries hnil pairs).symm

/-- Whatever is left of several dictionaries stood in the last of them that has its key. -/
theorem last_of_mem_ofList_flatten {dictionaries : List (Entries α)} {entry : String × α}
    (h : entry ∈ ofList dictionaries.flatten) :
    ∃ before dictionary after, dictionaries = before ++ dictionary :: after ∧
      entry ∈ dictionary ∧ ∀ other ∈ after, entry.1 ∉ keys other := by
  obtain ⟨earlier, later, hsplit, hlast⟩ := last_of_mem_ofList h
  have habsent : ∀ others : List (Entries α), (∀ pair ∈ others.flatten, pair ∈ later) →
      ∀ other ∈ others, entry.1 ∉ keys other := by
    intro others hothers other hother hkey
    obtain ⟨pair, hpair, hname⟩ := List.mem_map.mp hkey
    have hmem := hothers pair (List.mem_flatten_of_mem hother hpair)
    exact hlast (hname ▸ List.mem_map_of_mem hmem)
  rcases List.flatten_eq_append_iff.mp hsplit with
    ⟨front, back, rfl, rfl, hback⟩ | ⟨front, own, first, rest, back, rfl, rfl, hback⟩
  · obtain ⟨empty, rest, after, rfl, _, rfl⟩ := List.flatten_eq_cons_iff.mp hback.symm
    exact ⟨front ++ empty, entry :: rest, after, by simp, List.mem_cons_self,
      habsent after fun pair hpair => List.mem_append_right _ hpair⟩
  · obtain ⟨rfl, rfl⟩ := List.cons.inj hback
    exact ⟨front, own ++ entry :: rest, back, rfl, by simp,
      habsent back fun pair hpair => List.mem_append_right _ hpair⟩

end Entries

namespace Check

variable {σ : Type}

open Run

theorem parts_append (input : Option Json) (merged : Entries Json)
    (first second : List (Check σ)) : parts input merged (first ++ second) =
      (parts input merged first).bind fun merged => parts input merged second := by
  induction first generalizing merged with
  | nil => rfl
  | cons check first ih =>
    rw [List.cons_append, parts, parts, bind_bind]
    exact congrArg _ (funext fun output => ih _)

/-- An intersection among the parts merges what its own parts do. -/
theorem parts_intersection_cons (input : Option Json) (merged : Entries Json)
    (members checks : List (Check σ)) : parts input merged (intersection members :: checks) =
      parts input merged (members ++ checks) := by
  rw [parts_append, parts, intersection, parts_eq_all input [], parts_eq_all input merged members,
    mapValue_mapValue, bind_mapValue, bind_mapValue]
  refine congrArg _ (funext fun outputs => ?_)
  rw [Output.foldl_merge_eq, Output.foldl_merge_eq]
  exact congrArg (parts input · checks) (Entries.merge_ofList merged (outputs.flatMap Output.entries))

end Check

/-- The first list is the second with parts that stand side by side put together into
intersections, at any depth. A group may be empty. -/
inductive Grouped : List Validator → List Validator → Prop
  | nil : Grouped [] []
  | part (part : Validator) {grouped parts : List Validator} :
      Grouped grouped parts → Grouped (part :: grouped) (part :: parts)
  | group {members inner grouped parts : List Validator} :
      Grouped members inner → Grouped grouped parts →
        Grouped (.intersection members :: grouped) (inner ++ parts)

namespace Validator

variable {σ : Type} (make : Construction σ)

theorem interpretList_append (first second : List Validator) (base : Nat) :
    interpretList make (first ++ second) base =
      interpretList make first base ++ interpretList make second (base + listCells first) := by
  induction first generalizing base with
  | nil => rfl
  | cons validator first ih =>
    rw [List.cons_append, interpretList, ih, interpretList, listCells, Nat.add_assoc]
    rfl

theorem listCells_append (first second : List Validator) :
    listCells (first ++ second) = listCells first + listCells second := by
  induction first with
  | nil => exact (Nat.zero_add _).symm
  | cons validator first ih => rw [List.cons_append, listCells, ih, listCells, Nat.add_assoc]

end Validator

namespace Grouped

open Validator

variable {σ : Type} {grouped parts : List Validator}

theorem listCells_eq (h : Grouped grouped parts) : listCells grouped = listCells parts := by
  induction h with
  | nil => rfl
  | part part _ ih => rw [listCells, listCells, ih]
  | group _ _ ihmembers ih => rw [listCells, cells, ihmembers, ih, listCells_append]

/-- Groups are run part by part, with the memo cells that the parts have without them. -/
theorem parts_eq (h : Grouped grouped parts) (make : Construction σ) (base : Nat)
    (input : Option Json) (merged : Entries Json) :
    Check.parts input merged (interpretList make grouped base) =
      Check.parts input merged (interpretList make parts base) := by
  induction h generalizing base merged with
  | nil => rfl
  | part part _ ih =>
    rw [interpretList, interpretList, Check.parts, Check.parts]
    exact congrArg _ (funext fun output => ih _ _)
  | group hmembers _ ihmembers ih =>
    rw [interpretList, interpret, Check.parts_intersection_cons, Check.parts_append, ihmembers,
      interpretList_append, Check.parts_append, cells, hmembers.listCells_eq]
    exact congrArg _ (funext fun merged => ih _ _)

theorem interpret_eq (h : Grouped grouped parts) (make : Construction σ) (base : Nat) :
    interpret make (intersection grouped) base = interpret make (intersection parts) base := by
  funext input
  rw [interpret, interpret, Check.intersection, Check.intersection, h.parts_eq]

end Grouped

/-- If all parts pass, what they produce is merged. -/
theorem Validator.outcome?_intersection_ok_iff {body : String → Validator} {stages : Nat}
    {parts : List Validator} {input : Option Json} {output : Output} :
    (intersection parts).outcome? body stages input = some (.ok output) ↔
      ∃ outputs, List.Forall₂ (fun part output =>
        part.outcome? body stages input = some (.ok output)) parts outputs ∧
          .json (.object (Output.merged outputs)) = output := by
  rw [outcome?_eq_some_iff, (Construction.forgetful_placeless body stages).interpret_intersection]
  refine Check.yields_intersection.trans ?_
  simp only [List.forall₂_map_left_iff, outcome?_eq_some_iff, Output.foldl_merge_eq]
  rfl

namespace Scenario

/-- Parts of an intersection may be put together into intersections, at any depth. Whatever has
been checked before, the groups say what the parts say without them: the same output with its keys
in the same order, or the same failure. In the same memory cells they also leave the same behind.
If all parts pass, every key stands where a part produces it first, with the value from the last
part that produces it. -/
theorem answers_of_groups {scenario : Scenario} {memory later : Memory}
    (h : scenario.Reached memory) (hlater : scenario.Reached later)
    {grouped parts : List Validator} (hgrouped : Grouped grouped parts) {nested flat : Nat}
    (hnested : (scenario.live nested).validator = .intersection grouped)
    (hflat : (scenario.live flat).validator = .intersection parts) :
    (∀ stages input, scenario.answer? stages nested input memory =
      scenario.answer? stages flat input later) ∧
    (∀ library base input memory,
      (Live.mk (.intersection grouped) base).check library input memory =
        (Live.mk (.intersection parts) base).check library input memory) ∧
    ∀ stages input outputs, List.Forall₂ (fun part output =>
        part.outcome? scenario.body stages input = some (.ok output)) parts outputs →
      ∃ merged, scenario.answer? stages flat input later = some (.ok (.json (.object merged))) ∧
        Entries.keys merged =
          (outputs.flatMap fun output => Entries.keys output.entries).eraseDups ∧
        ∀ entry ∈ merged, ∃ before output after, outputs = before ++ output :: after ∧
          entry ∈ output.entries ∧ ∀ other ∈ after, entry.1 ∉ Entries.keys other.entries := by
  refine ⟨fun stages input => ?_, fun library base input memory => ?_,
    fun stages input outputs houtputs => ⟨Output.merged outputs, ?_, ?_, fun entry hentry => ?_⟩⟩
  · refine h.answer?_congr hlater ?_
    rw [hnested, hflat, hgrouped.interpret_eq]
  · rw [Live.check, Live.check, Live.interpret, Live.interpret, hgrouped.interpret_eq]
  · rw [hlater.answer?_ok_iff, hflat]
    exact Validator.outcome?_intersection_ok_iff.mpr ⟨outputs, houtputs, rfl⟩
  · rw [Output.merged, Entries.keys_ofList, Entries.keys, List.map_flatMap]
    rfl
  · rw [Output.merged, List.flatMap_def] at hentry
    obtain ⟨front, _, back, hsplit, hmem, hlast⟩ := Entries.last_of_mem_ofList_flatten hentry
    obtain ⟨before, rest, rfl, rfl, hrest⟩ := List.map_eq_append_iff.mp hsplit
    obtain ⟨output, after, rfl, rfl, rfl⟩ := List.map_eq_cons_iff.mp hrest
    exact ⟨before, output, after, rfl, hmem,
      fun other hother => hlast _ (List.mem_map_of_mem hother)⟩

/-- Parts that produce some keys twice. -/
def overlaps : List Validator :=
  [.record [("a", .string), ("b", .boolean)],
    .always (.json (.object [("c", .null), ("a", .bool true)])),
    .record [("b", .fallback (.json .null) .string)]]

/-- The first of these parts next to no part at all, and the others in one group. -/
def clusters : List Validator :=
  [.intersection [.record [("a", .string), ("b", .boolean)], .intersection []],
    .intersection [.intersection [.always (.json (.object [("c", .null), ("a", .bool true)]))],
      .record [("b", .fallback (.json .null) .string)]]]

/-- The parts in groups and without them. -/
def clustered : Scenario :=
  ⟨fun _ => .never "not defined", [.intersection clusters, .intersection overlaps]⟩

/-- The first two keys come from the first part and their values from the last ones, and it is
the first part that misses a key. -/
theorem clustered_answers :
    clustered.answer? 0 0 (some (.object [("b", .bool true), ("a", .string "s")]))
        clustered.memory =
      some (.ok (.json (.object [("a", .bool true), ("b", .null), ("c", .null)]))) ∧
    clustered.answer? 0 0 (some (.object [("a", .string "s")])) clustered.memory =
      some (.error (.located (some (.object [("a", .string "s")])) Path.root
        "the key 'b' is required but was not present")) ∧
    ∃ merged, clustered.answer? 0 1 (some (.object [("b", .bool true), ("a", .string "s")]))
        clustered.memory = some (.ok (.json (.object merged))) ∧
      Entries.keys merged = ["a", "b", "c"] := by
  have hstart : clustered.Reached clustered.memory := .start
  have hgrouped : Grouped clusters overlaps :=
    .group (.part _ (.group .nil .nil)) (.group (.group (.part _ .nil) (.part _ .nil)) .nil)
  have hnested : (clustered.live 0).validator = .intersection clusters := rfl
  have hflat : (clustered.live 1).validator = .intersection overlaps := rfl
  obtain ⟨hsame, _, hmerged⟩ := answers_of_groups hstart hstart hgrouped hnested hflat
  refine ⟨(hsame 0 _).trans rfl, (hsame 0 _).trans rfl, ?_⟩
  obtain ⟨merged, hanswer, hkeys, _⟩ := hmerged 0
    (some (.object [("b", .bool true), ("a", .string "s")]))
    [.json (.object [("a", .string "s"), ("b", .bool true)]),
      .json (.object [("c", .null), ("a", .bool true)]), .json (.object [("b", .null)])]
    (.cons rfl (.cons rfl (.cons rfl .nil)))
  exact ⟨merged, hanswer, hkeys.trans (by decide)⟩

end Scenario

end JsonValidators
