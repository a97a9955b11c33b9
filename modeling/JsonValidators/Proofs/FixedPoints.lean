import JsonValidators.Proofs.Idempotence
import JsonValidators.Proofs.Overwriting
import JsonValidators.Proofs.Selection

/-!
Idempotence of alternatives and of intersections. That the branches produce the same again
from what they have produced is not enough for alternatives to do so, as a branch before
the one that was chosen may accept its output and change it. Likewise, a part of an
intersection looks at the merged object and not at its own. What is needed in addition is
said here, and on it depends that checks of an output end with the same output.
-/

namespace JsonValidators

open Run

namespace Check

/-- Fields look at nothing but the names that are declared. -/
theorem fields_congr {object object' : Entries Json} {declared : List (String × Check Unit)}
    (h : ∀ name ∈ Entries.keys declared, Entries.get? object name = Entries.get? object' name) :
    fields object declared = fields object' declared := by
  induction declared with
  | nil => rfl
  | cons entry rest ih =>
    obtain ⟨hname, hrest⟩ := List.forall_mem_cons.mp h
    rw [fields, fields, ih hrest, hname]

end Check

namespace Validator

variable (body : String → Validator)

/-- The validator fails on the input. -/
def Rejects (validator : Validator) (input : Option Json) : Prop :=
  ∃ fault, validator.result? body input = some (.error fault)

theorem result?_firstOf {branches : List Validator} {input : Option Json} {output : Output} :
    (firstOf branches).result? body input = some (.ok output) ↔
      ∃ earlier branch later, branches = earlier ++ branch :: later ∧
        (∀ other ∈ earlier, other.Rejects body input) ∧
          branch.result? body input = some (.ok output) := by
  rw [← yields_meaning, meaning, (Construction.unbounded_placeless body).interpret_firstOf,
    Check.yields_firstOf]
  constructor
  · rintro ⟨earlier, chosen, later, hbranches, hearlier, hchosen⟩
    obtain ⟨before, rest, rfl, rfl, hrest⟩ := List.map_eq_append_iff.mp hbranches
    obtain ⟨branch, after, rfl, rfl, rfl⟩ := List.map_eq_cons_iff.mp hrest
    refine ⟨before, branch, after, rfl, fun other hother => ?_, yields_meaning.mp hchosen⟩
    obtain ⟨fault, hfault⟩ := hearlier _ (List.mem_map_of_mem hother)
    exact ⟨fault, fails_meaning.mp hfault⟩
  · rintro ⟨earlier, branch, later, rfl, hearlier, hbranch⟩
    refine ⟨earlier.map (meaning body), branch.meaning body, later.map (meaning body),
      by rw [List.map_append, List.map_cons]; rfl, ?_, yields_meaning.mpr hbranch⟩
    intro check hcheck
    obtain ⟨other, hother, rfl⟩ := List.mem_map.mp hcheck
    obtain ⟨fault, hfault⟩ := hearlier other hother
    exact ⟨fault, fails_meaning.mpr hfault⟩

theorem result?_intersection {parts : List Validator} {input : Option Json} {output : Output} :
    (intersection parts).result? body input = some (.ok output) ↔
      ∃ outputs, List.Forall₂ (fun part output => part.result? body input = some (.ok output))
        parts outputs ∧ .json (.object (Output.merged outputs)) = output := by
  rw [← yields_meaning, meaning, (Construction.unbounded_placeless body).interpret_intersection,
    Check.yields_intersection]
  have hresults : ∀ part output, (interpret (.unbounded body) part 0 input).Yields output ↔
      part.result? body input = some (.ok output) := fun _ _ => yields_meaning
  simp only [List.forall₂_map_left_iff, hresults, Output.foldl_merge_eq]
  rfl

/-- What the validator produces from a value, it produces again from the JSON value of it. -/
def Idempotent (validator : Validator) : Prop :=
  ∀ input output, (∀ value ∈ input, Json.KeysDistinct value) →
    validator.result? body input = some (.ok output) →
      validator.result? body output.toJson? = some (.ok output)

section Alternatives

/-- If a branch before the one that is chosen accepts what that one has produced, the first
to do so leaves it as it is. -/
def KeepsChoice (branches : List Validator) : Prop :=
  ∀ earlier branch later input output, branches = earlier ++ branch :: later →
    (∀ value ∈ input, Json.KeysDistinct value) → (∀ other ∈ earlier, other.Rejects body input) →
      branch.result? body input = some (.ok output) →
        (∀ other ∈ earlier, other.Rejects body output.toJson?) ∨
          (firstOf earlier).result? body output.toJson? = some (.ok output)

variable {body} {branches : List Validator}

theorem KeepsChoice.idempotent (hbranches : ∀ branch ∈ branches, branch.Idempotent body)
    (h : KeepsChoice body branches) : (firstOf branches).Idempotent body := by
  intro input output hinput hresult
  obtain ⟨earlier, branch, later, rfl, hearlier, hbranch⟩ := (result?_firstOf body).mp hresult
  rw [result?_firstOf]
  rcases h earlier branch later input output rfl hinput hearlier hbranch with hreject | hkept
  · have hmem : branch ∈ earlier ++ branch :: later := by simp
    exact ⟨earlier, branch, later, rfl, hreject, hbranches branch hmem input output hinput hbranch⟩
  · obtain ⟨before, other, between, rfl, hbefore, hother⟩ := (result?_firstOf body).mp hkept
    exact ⟨before, other, between ++ branch :: later, by simp, hbefore, hother⟩

theorem Idempotent.keepsChoice (h : (firstOf branches).Idempotent body) :
    KeepsChoice body branches := by
  intro earlier branch later input output hsplit hinput hearlier hbranch
  have hresult : (firstOf branches).result? body input = some (.ok output) :=
    (result?_firstOf body).mpr ⟨earlier, branch, later, hsplit, hearlier, hbranch⟩
  have hagain := h input output hinput hresult
  obtain ⟨before, other, after, hsplit', hbefore, hother⟩ := (result?_firstOf body).mp hagain
  -- The branch that passes now stands behind all the earlier ones, or it is one of them.
  rcases List.append_eq_append_iff.mp (hsplit.symm.trans hsplit') with
    ⟨between, rfl, _⟩ | ⟨between, rfl, hrest⟩
  · exact .inl fun other hother => hbefore other (List.mem_append_left _ hother)
  · cases between with
    | nil =>
      rw [List.append_nil]
      exact .inl hbefore
    | cons first between =>
      obtain ⟨rfl, _⟩ := List.cons.inj hrest
      exact .inr ((result?_firstOf body).mpr ⟨before, other, between, rfl, hbefore, hother⟩)

end Alternatives

section Intersections

/-- All parts accept the object that they have been merged into, and what they make of it is
merged into the same object. -/
def MergesAgain (parts : List Validator) : Prop :=
  ∀ input outputs, (∀ value ∈ input, Json.KeysDistinct value) →
    List.Forall₂ (fun part output => part.result? body input = some (.ok output)) parts outputs →
      ∃ agains, List.Forall₂ (fun part again =>
          part.result? body (some (.object (Output.merged outputs))) = some (.ok again))
        parts agains ∧ Output.merged agains = Output.merged outputs

/-- From a part on, each makes of the merged object what it makes of the object that it has
produced, but for values that parts after it overwrite. -/
inductive Undisturbed (merged : Entries Json) : List Validator → List Output → Prop
  | nil : Undisturbed merged [] []
  | cons {part : Validator} {output again : Output} {parts : List Validator}
      {outputs : List Output} :
      part.result? body (some (.object merged)) = some (.ok again) →
      (∀ own, part.result? body output.toJson? = some (.ok own) →
        Entries.SameUnless (Entries.keys (outputs.flatMap Output.entries)) own.entries
          again.entries) →
      Undisturbed merged parts outputs → Undisturbed merged (part :: parts) (output :: outputs)

/-- No part is disturbed by what the others put into the merged object. -/
def KeepsParts (parts : List Validator) : Prop :=
  ∀ input outputs, (∀ value ∈ input, Json.KeysDistinct value) →
    List.Forall₂ (fun part output => part.result? body input = some (.ok output)) parts outputs →
      Undisturbed body (Output.merged outputs) parts outputs

variable {body} {parts : List Validator}

theorem idempotent_intersection_iff :
    (intersection parts).Idempotent body ↔ MergesAgain body parts := by
  constructor
  · intro h input outputs hinput houtputs
    have hagain := h input _ hinput ((result?_intersection body).mpr ⟨outputs, houtputs, rfl⟩)
    obtain ⟨agains, hagains, hmerged⟩ := (result?_intersection body).mp hagain
    exact ⟨agains, hagains, Json.object.inj (Output.json.inj hmerged)⟩
  · intro h input output hinput hresult
    obtain ⟨outputs, houtputs, rfl⟩ := (result?_intersection body).mp hresult
    obtain ⟨agains, hagains, hmerged⟩ := h input outputs hinput houtputs
    exact (result?_intersection body).mpr ⟨agains, hagains, by rw [hmerged]⟩

theorem Undisturbed.merges_again {merged : Entries Json} {outputs : List Output}
    (h : Undisturbed body merged parts outputs)
    (hown : List.Forall₂ (fun part output =>
      part.result? body output.toJson? = some (.ok output)) parts outputs) :
    ∃ agains, List.Forall₂ (fun part again =>
        part.result? body (some (.object merged)) = some (.ok again)) parts agains ∧
      ∀ start, Entries.merge start (agains.flatMap Output.entries) =
        Entries.merge start (outputs.flatMap Output.entries) := by
  induction h with
  | nil => exact ⟨[], .nil, fun _ => rfl⟩
  | @cons part output again parts outputs hagain hsame _ ih =>
    obtain ⟨hpart, hparts⟩ := List.forall₂_cons.mp hown
    obtain ⟨agains, hagains, hmerge⟩ := ih hparts
    refine ⟨again :: agains, .cons hagain hagains, fun start => ?_⟩
    rw [List.flatMap_cons, List.flatMap_cons, Entries.merge_append, Entries.merge_append, hmerge]
    exact ((hsame output hpart).merge_eq start).symm

/-- Idempotent parts that are not disturbed make the same of the merged object. -/
theorem KeepsParts.mergesAgain (hparts : ∀ part ∈ parts, part.Idempotent body)
    (h : KeepsParts body parts) : MergesAgain body parts := by
  intro input outputs hinput houtputs
  have hown : List.Forall₂ (fun part output =>
      part.result? body output.toJson? = some (.ok output)) parts outputs :=
    ((List.forall₂_and_left parts outputs).mpr ⟨hparts, houtputs⟩).imp fun _ output h =>
      h.1 input output hinput h.2
  obtain ⟨agains, hagains, hmerge⟩ := (h input outputs hinput houtputs).merges_again hown
  exact ⟨agains, hagains, hmerge []⟩

end Intersections

section Records

variable {body}

/-- A record produces an object with declared names as keys. -/
theorem result?_record_entries {declarations : Fields} {input : Option Json} {output : Output}
    (h : (record declarations).result? body input = some (.ok output)) :
    output.toJson? = some (.object output.entries) ∧ (Entries.keys output.entries).Nodup ∧
      ∀ key ∈ Entries.keys output.entries, key ∈ declarations.names := by
  have hyields := yields_meaning.mpr h
  rw [meaning, (Construction.unbounded_placeless body).interpret_record] at hyields
  obtain ⟨object, results, _, hresults, rfl⟩ := Check.yields_record.mp hyields
  have hkeys : Entries.keys results = Entries.keys (Entries.ofList declarations) := by
    rw [Entries.keys_of_forall₂ (fun _ _ hproduces => hproduces.1) hresults,
      Entries.keys_map fun validator => interpret (.unbounded body) validator 0]
  have hnodup : (Entries.keys results).Nodup := hkeys ▸ Entries.nodup_keys_ofList declarations
  refine ⟨rfl, Output.nodup_keys_entriesJson hnodup, fun key hkey => ?_⟩
  have hmem := (Output.keys_entriesJson_sublist results).subset hkey
  rw [hkeys] at hmem
  exact Entries.mem_keys_ofList.mp hmem

/-- A record looks at nothing but the names that are declared. -/
theorem result?_record_congr {declarations : Fields} {object object' : Entries Json}
    (h : ∀ name ∈ declarations.names, Entries.get? object name = Entries.get? object' name) :
    (record declarations).result? body (some (.object object)) =
      (record declarations).result? body (some (.object object')) := by
  have hmeaning : (record declarations).meaning body (some (.object object)) =
      (record declarations).meaning body (some (.object object')) := by
    rw [meaning, (Construction.unbounded_placeless body).interpret_record, Check.record,
      Check.record, Check.fields_congr fun name hname => h name ?_]
    rw [Entries.keys_map fun validator => interpret (.unbounded body) validator 0] at hname
    exact Entries.mem_keys_ofList.mp hname
  apply Option.ext
  intro outcome
  rw [← meaning_eq_some_iff, ← meaning_eq_some_iff, hmeaning]

/-- Records that have no names in common do not disturb one another. -/
theorem keepsParts_records {declarations : List Fields}
    (hparts : ∀ fields ∈ declarations, (record fields).Idempotent body)
    (hdisjoint : declarations.Pairwise fun fields others =>
      ∀ name ∈ fields.names, name ∉ others.names) :
    KeepsParts body (declarations.map record) := by
  intro input outputs hinput houtputs
  rw [List.forall₂_map_left_iff] at houtputs
  -- The outputs of the parts before those that are left have no keys of theirs.
  suffices hrest : ∀ before : List Output, (∀ other ∈ before, ∀ fields ∈ declarations,
      ∀ name ∈ fields.names, name ∉ Entries.keys other.entries) →
        Undisturbed body (Output.merged (before ++ outputs)) (declarations.map record) outputs from
    hrest [] nofun
  induction houtputs with
  | nil => exact fun _ _ => .nil
  | @cons fields output declarations outputs hresult hresults ih =>
    intro before hbefore
    obtain ⟨hfields, hpairs⟩ := List.pairwise_cons.mp hdisjoint
    obtain ⟨hobject, hnodup, hkeys⟩ := result?_record_entries hresult
    have hagain := hparts fields List.mem_cons_self input output hinput hresult
    have hafter : ∀ other ∈ outputs, ∀ name ∈ fields.names,
        name ∉ Entries.keys other.entries := by
      intro other hother name hname hkey
      obtain ⟨others, hothers, hown⟩ := exists_left_of_forall₂ hresults hother
      exact hfields others hothers name hname ((result?_record_entries hown).2.2 name hkey)
    have hmerged : (record fields).result? body
        (some (.object (Output.merged (before ++ output :: outputs)))) = some (.ok output) := by
      rw [← hagain, hobject]
      refine result?_record_congr fun name hname => ?_
      exact Output.get?_merged hnodup
        (fun other hother => hbefore other hother fields List.mem_cons_self name hname)
        fun other hother => hafter other hother name hname
    refine .cons hmerged ?_ ?_
    · intro own hown
      obtain rfl : output = own := by simpa using hagain.symm.trans hown
      exact .refl _ _
    · have hpart := ih (fun others hothers => hparts others (List.mem_cons_of_mem _ hothers)) hpairs
        (before ++ [output])
      rw [List.append_assoc] at hpart
      refine hpart fun other hother others hothers name hname hkey => ?_
      rcases List.mem_append.mp hother with hold | hnew
      · exact hbefore other hold others (List.mem_cons_of_mem _ hothers) name hname hkey
      · obtain rfl := List.mem_singleton.mp hnew
        exact hfields others hothers name (hkeys name hkey) hname

/-- What a stable validator of plain JSON values produces, it produces again. -/
theorem Stable.idempotent {validator : Validator} (h : validator.Stable body)
    (hjson : ∀ input output, validator.result? body input = some (.ok output) →
      ∃ value, output = .json value) : validator.Idempotent body := by
  intro input output _ hresult
  obtain ⟨again, hagain, hsame⟩ := h.result?_again hresult
  obtain ⟨value, rfl⟩ := hjson input output hresult
  obtain ⟨value', rfl⟩ := hjson _ again hagain
  obtain rfl : value' = value := Option.some.inj hsame
  exact hagain

variable {declarations : Fields}

theorem stable_record (h : ∀ entry ∈ declarations, entry.2.Stable body) :
    (record declarations).Stable body := by
  refine MadeOf.of_parts trivial (fun part hpart => ?_) nofun nofun
  cases hpart with
  | field hentry => exact h _ hentry

theorem idempotent_record (h : ∀ entry ∈ declarations, entry.2.Stable body) :
    (record declarations).Idempotent body := by
  refine (stable_record h).idempotent fun input output hresult => ?_
  have hyields := yields_meaning.mpr hresult
  rw [meaning, (Construction.unbounded_placeless body).interpret_record] at hyields
  obtain ⟨_, _, _, _, rfl⟩ := Check.yields_record.mp hyields
  exact ⟨_, rfl⟩

theorem idempotent_closedRecord (h : ∀ entry ∈ declarations, entry.2.Stable body) :
    (closedRecord declarations).Idempotent body := by
  have hstable : (closedRecord declarations).Stable body := by
    refine MadeOf.of_parts trivial (fun part hpart => ?_) nofun nofun
    cases hpart with
    | closedField hentry => exact h _ hentry
  refine hstable.idempotent fun input output hresult => ?_
  have hyields := yields_meaning.mpr hresult
  rw [meaning, (Construction.unbounded_placeless body).interpret_closedRecord] at hyields
  obtain ⟨_, _, _, _, _, rfl⟩ := Check.yields_closedRecord.mp hyields
  exact ⟨_, rfl⟩

/-- Numbers are produced as the binary64 numbers nearest to them, which are nearest to
themselves. -/
theorem idempotent_number : number.Idempotent body := by
  intro input output _ hresult
  obtain ⟨value, _, rfl⟩ := Check.yields_number.mp (yields_meaning.mpr hresult)
  exact yields_meaning.mp rfl

theorem idempotent_string : string.Idempotent body := by
  intro input output _ hresult
  obtain ⟨_, rfl⟩ := Check.string_passes.yields_iff.mp (yields_meaning.mpr hresult)
  cases input <;> exact hresult

end Records

end Validator

namespace Scenario

variable {scenario : Scenario} {number : Nat}

/-- Whatever is checked in between, what a check of the validator has produced is accepted
by the validator, and produced again. -/
def ChecksAgain (scenario : Scenario) (number : Nat) : Prop :=
  ∀ memory memory' later stages input output, scenario.Reached memory → scenario.Reached later →
    (∀ value ∈ input, Json.KeysDistinct value) →
      scenario.check stages number input memory = some (.ok output, memory') →
        ∃ last stages', ∀ more, stages' ≤ more →
          scenario.check more number output.toJson? later = some (.ok output, last)

theorem checksAgain_iff : scenario.ChecksAgain number ↔
    (scenario.live number).validator.Idempotent scenario.body := by
  constructor
  · intro h input output hinput hresult
    obtain ⟨memory', stages, hchecks⟩ := consistent_start.check_of_result hresult
    obtain ⟨last, stages', hagain⟩ := h _ memory' _ stages input output .start .start hinput
      (hchecks stages (Nat.le_refl stages))
    exact consistent_start.result_of_check (hagain stages' (Nat.le_refl stages'))
  · intro h memory memory' later stages input output hmemory hlater hinput hcheck
    have hagain := h input output hinput (hmemory.consistent.result_of_check hcheck)
    exact hlater.consistent.check_of_result hagain

/-- Alternatives of idempotent branches are idempotent exactly if an earlier branch that
accepts what a later one has produced leaves it as it is. An intersection is idempotent
exactly if the parts make of the merged object what is merged into it again, and so it is if
the parts are idempotent and none is disturbed by what the others put into the object. -/
theorem checksAgain_of_parts (scenario : Scenario) (number : Nat) :
    (∀ branches, (scenario.live number).validator = .firstOf branches →
      (∀ branch ∈ branches, branch.Idempotent scenario.body) →
        (scenario.ChecksAgain number ↔ Validator.KeepsChoice scenario.body branches)) ∧
    ∀ parts, (scenario.live number).validator = .intersection parts →
      (scenario.ChecksAgain number ↔ Validator.MergesAgain scenario.body parts) ∧
      ((∀ part ∈ parts, part.Idempotent scenario.body) →
        Validator.KeepsParts scenario.body parts → scenario.ChecksAgain number) := by
  constructor
  · intro branches hvalidator hbranches
    rw [checksAgain_iff, hvalidator]
    exact ⟨Validator.Idempotent.keepsChoice, Validator.KeepsChoice.idempotent hbranches⟩
  · intro parts hvalidator
    rw [checksAgain_iff, hvalidator, Validator.idempotent_intersection_iff]
    exact ⟨Iff.rfl, fun hparts hkeeps => hkeeps.mergesAgain hparts⟩

/-- A string or a number, and an object with a number and a string under two keys. -/
def scalars : Scenario :=
  ⟨fun _ => .never "not defined",
    [.firstOf [.string, .number],
      .intersection ([[("a", .number)], [("b", .string)]].map .record)]⟩

/-- No string is a number, and the two keys differ. -/
theorem scalars_checksAgain : scalars.ChecksAgain 0 ∧ scalars.ChecksAgain 1 := by
  constructor
  · have hbranches : ∀ branch ∈ [Validator.string, .number],
        branch.Idempotent scalars.body := by
      simp [Validator.idempotent_string, Validator.idempotent_number]
    refine ((checksAgain_of_parts scalars 0).1 [.string, .number] rfl hbranches).mpr ?_
    intro earlier branch later input output hsplit _ _ hbranch
    rcases earlier with _ | ⟨first, _ | ⟨second, earlier⟩⟩
    · exact .inl nofun
    · simp only [List.cons_append, List.nil_append, List.cons.injEq] at hsplit
      obtain ⟨rfl, rfl, _⟩ := hsplit
      obtain ⟨value, _, rfl⟩ := Check.yields_number.mp (Validator.yields_meaning.mpr hbranch)
      refine .inl fun other hother => ?_
      obtain rfl := List.mem_singleton.mp hother
      exact ⟨_, Validator.fails_meaning.mp rfl⟩
    · simp at hsplit
  · have hnumber : Validator.number.Stable scalars.body :=
      Validator.MadeOf.of_parts trivial nofun nofun nofun
    have hstring : Validator.string.Stable scalars.body :=
      Validator.MadeOf.of_parts trivial nofun nofun nofun
    have hrecords : ∀ fields ∈ [[("a", Validator.number)], [("b", .string)]],
        (Validator.record fields).Idempotent scalars.body := by
      simp only [List.forall_mem_cons, List.not_mem_nil, false_implies, implies_true, and_true]
      exact ⟨Validator.idempotent_record (by simpa using hnumber),
        Validator.idempotent_record (by simpa using hstring)⟩
    have hkeeps := Validator.keepsParts_records hrecords (by simp [Fields.names, Entries.keys])
    exact ((checksAgain_of_parts scalars 1).2 _ rfl).2 (List.forall_mem_map.mpr hrecords) hkeeps

/-- A record that fills a key in stands before one that drops all keys, and two records
produce different objects under one key. -/
def clashing : Scenario :=
  ⟨fun _ => .never "not defined",
    [.firstOf [.closedRecord [("c", .fallback (.json (.string "x")) .string)], .record []],
      .intersection [.record [("x", .record [("a", .string)])],
        .record [("x", .record [("b", .string)])]]]⟩

/-- The empty object is accepted by the record that fills the key in, and the object that is
merged has no string for the first of the two records. -/
theorem clashing_not_checksAgain :
    ((∀ branch ∈ [Validator.closedRecord [("c", .fallback (.json (.string "x")) .string)],
        .record []], branch.Idempotent clashing.body) ∧ ¬ clashing.ChecksAgain 0) ∧
    (∀ part ∈ [Validator.record [("x", .record [("a", .string)])],
        .record [("x", .record [("b", .string)])]],
      part.Idempotent clashing.body ∧ part.ProducesObjects clashing.body) ∧
    ¬ clashing.ChecksAgain 1 := by
  have hstring : Validator.string.Stable clashing.body :=
    Validator.MadeOf.of_parts trivial nofun nofun nofun
  have hfilled : (Validator.fallback (.json (.string "x")) .string).Stable clashing.body := by
    have hdefault : Validator.string.outcome? clashing.body 0 (some (.string "x")) =
        some (.ok (.json (.string "x"))) := rfl
    refine Validator.MadeOf.of_parts ⟨rfl, _, Validator.result?_of_outcome? _ hdefault, ?_⟩ ?_
      nofun nofun
    · intro output houtput
      obtain rfl := Except.ok.inj houtput
      rfl
    · intro part hpart
      cases hpart
      exact hstring
  have hinner : ∀ name, (Validator.record [("x", .record [(name, .string)])]).Idempotent
      clashing.body := by
    intro name
    refine Validator.idempotent_record (List.forall_mem_singleton.mpr ?_)
    exact Validator.stable_record (List.forall_mem_singleton.mpr hstring)
  have hobjects : ∀ declarations : Fields,
      (Validator.record declarations).ProducesObjects clashing.body := by
    intro declarations input output hresult
    exact ⟨_, (Validator.result?_record_entries hresult).1⟩
  refine ⟨⟨?_, ?_⟩, ?_, ?_⟩
  · simp only [List.forall_mem_cons, List.not_mem_nil, false_implies, implies_true, and_true]
    exact ⟨Validator.idempotent_closedRecord (List.forall_mem_singleton.mpr hfilled),
      Validator.idempotent_record nofun⟩
  · rw [checksAgain_iff]
    intro h
    have hfirst : (clashing.live 0).validator.outcome? clashing.body 0
        (some (.object [("b", .null)])) = some (.ok (.json (.object []))) := rfl
    have hsecond : (clashing.live 0).validator.outcome? clashing.body 0 (some (.object [])) =
        some (.ok (.json (.object [("c", .string "x")]))) := rfl
    have hagain := h _ _ (by decide) (Validator.result?_of_outcome? _ hfirst)
    cases hagain.symm.trans (Validator.result?_of_outcome? _ hsecond)
  · simp only [List.forall_mem_cons, List.not_mem_nil, false_implies, implies_true, and_true]
    exact ⟨⟨hinner "a", hobjects _⟩, hinner "b", hobjects _⟩
  · rw [checksAgain_iff]
    intro h
    have hfirst : (clashing.live 1).validator.outcome? clashing.body 0
        (some (.object [("x", .object [("a", .string "s"), ("b", .string "t")])])) =
      some (.ok (.json (.object [("x", .object [("b", .string "t")])]))) := rfl
    have hsecond : (clashing.live 1).validator.outcome? clashing.body 0
        (some (.object [("x", .object [("b", .string "t")])])) =
      some (.error ((Fault.here (.missingKey "a")).underField "x")) := rfl
    have hagain := h _ _ (by decide) (Validator.result?_of_outcome? _ hfirst)
    cases hagain.symm.trans (Validator.result?_of_outcome? _ hsecond)

end Scenario

end JsonValidators
