import JsonValidators.Proofs.Endings
import JsonValidators.Proofs.Outputs

/-!
Checking an output again. Validators that only select and normalize accept what they
have produced, and produce it again unchanged. The reason is found check by check: an
output is accepted again, and the output for a value is never undefined, so nothing
is lost from arrays and dictionaries in between.
-/

namespace JsonValidators

open Run

/-- The second check accepts what the first produces, and produces the same from it.
What the first produces from a value is a value. -/
structure Rereads (check check' : Check Unit) : Prop where
  again : ∀ input output, (check input).Yields output →
    ∃ output', (check' output.toJson?).Yields output' ∧ output'.toJson? = output.toJson?
  present : ∀ value output, (check (some value)).Yields output → output.toJson?.isSome

namespace Rereads

variable {ι : Type} {check check' : Check Unit}

/-- On a value, the produced value is accepted again. -/
theorem value (h : Rereads check check') {input : Json} {output : Output}
    (hyields : (check (some input)).Yields output) :
    ∃ value output', output.toJson? = some value ∧ (check' (some value)).Yields output' ∧
      output'.toJson? = some value := by
  obtain ⟨value, hvalue⟩ := Option.isSome_iff_exists.mp (h.present input output hyields)
  obtain ⟨output', hagain, heq⟩ := h.again (some input) output hyields
  rw [hvalue] at hagain heq
  exact ⟨value, output', hvalue, hagain, heq⟩

/-- A check that produces what it looks at. -/
theorem of_same (h : ∀ input output, (check input).Yields output → output = .ofOption input) :
    Rereads check check := by
  have hjson : ∀ input : Option Json, (Output.ofOption input).toJson? = input := by
    rintro (- | value) <;> rfl
  constructor
  · intro input output hyields
    obtain rfl := h input output hyields
    rw [hjson]
    exact ⟨_, hyields, hjson input⟩
  · intro value output hyields
    obtain rfl := h (some value) output hyields
    rfl

theorem of_passes {kind : Kind} (h : Check.Passes kind check) : Rereads check check :=
  of_same fun _ _ hyields => (h.yields_iff.mp hyields).2.symm

theorem anything : Rereads Check.anything Check.anything :=
  of_same fun _ _ h => ((yields_ofValue _ _).mp h).symm

/-- A number is produced as a binary64 number, which is the nearest one to itself. -/
theorem number : Rereads Check.number Check.number := by
  constructor
  · intro input output hyields
    obtain ⟨value, _, rfl⟩ := Check.yields_number.mp hyields
    exact ⟨.float (.finite value.toBinary64), rfl, rfl⟩
  · intro value output hyields
    obtain ⟨number, _, rfl⟩ := Check.yields_number.mp hyields
    rfl

/-- The constant is produced, whatever it has been compared with. -/
theorem constant {literal : Literal} (h : literal.AcceptsItself) :
    Rereads (Check.constant literal Json.equivalent) (Check.constant literal Json.equivalent) := by
  obtain ⟨produced, hproduced, haccepts⟩ := h
  constructor
  · intro input output hyields
    obtain ⟨_, rfl⟩ := Check.yields_constant.mp hyields
    exact ⟨literal.toOutput, Check.yields_constant.mpr ⟨⟨produced, hproduced, haccepts⟩, rfl⟩, rfl⟩
  · intro value output hyields
    obtain ⟨_, rfl⟩ := Check.yields_constant.mp hyields
    exact Option.isSome_of_eq_some hproduced

theorem always {output : Output} (h : output.toJson?.isSome) :
    Rereads (Check.always output) (Check.always output) := by
  constructor
  · intro input output' hyields
    obtain rfl := (yields_ofValue _ _).mp hyields
    exact ⟨output, rfl, rfl⟩
  · intro value output' hyields
    obtain rfl := (yields_ofValue _ _).mp hyields
    exact h

/-- Items are values, so none of them becomes null in the list. -/
theorem items (h : Rereads check check') {values : List Json} {outputs : List Output}
    (houtputs : List.Forall₂ (fun value output => (check (some value)).Yields output)
      values outputs) :
    ∃ outputs', List.Forall₂ (fun value output => (check' (some value)).Yields output)
      (Output.itemsJson outputs) outputs' ∧
        Output.itemsJson outputs' = Output.itemsJson outputs := by
  induction houtputs with
  | nil => exact ⟨[], .nil, rfl⟩
  | cons hfirst _ ih =>
    obtain ⟨found, output', hfound, hagain, heq⟩ := h.value hfirst
    obtain ⟨others, hothers, heqs⟩ := ih
    refine ⟨output' :: others, ?_, by simp only [Output.itemsJson, hfound, heq, heqs]⟩
    rw [Output.itemsJson, hfound]
    exact .cons hagain hothers

theorem list (h : Rereads check check') : Rereads (Check.list check) (Check.list check') := by
  constructor
  · intro input output hyields
    obtain ⟨values, outputs, _, houtputs, rfl⟩ := Check.yields_list.mp hyields
    obtain ⟨outputs', hagain, heq⟩ := h.items houtputs
    refine ⟨.list outputs', Check.yields_list.mpr ⟨_, outputs', rfl, hagain, rfl⟩, ?_⟩
    rw [Output.toJson?, Output.toJson?, heq]
  · intro value output hyields
    obtain ⟨values, outputs, _, _, rfl⟩ := Check.yields_list.mp hyields
    rfl

theorem values (h : Rereads check check') {object : Entries Json} {results : Entries Output}
    (hresults : List.Forall₂ (Check.Produces check) object results) :
    ∃ results', List.Forall₂ (Check.Produces check') (Output.entriesJson results) results' ∧
      Output.entriesJson results' = Output.entriesJson results := by
  induction hresults with
  | nil => exact ⟨[], .nil, rfl⟩
  | @cons entry result _ _ hfirst _ ih =>
    obtain ⟨found, output', hfound, hagain, heq⟩ := h.value hfirst.2
    obtain ⟨others, hothers, heqs⟩ := ih
    refine ⟨(result.1, output') :: others, ?_, ?_⟩
    · simp only [Output.entriesJson, hfound]
      exact .cons ⟨rfl, hagain⟩ hothers
    · simp only [Output.entriesJson, hfound, heq, heqs]

theorem dictionary (h : Rereads check check') :
    Rereads (Check.dictionary check) (Check.dictionary check') := by
  constructor
  · intro input output hyields
    obtain ⟨object, results, _, hresults, rfl⟩ := Check.yields_dictionary.mp hyields
    obtain ⟨results', hagain, heq⟩ := h.values hresults
    refine ⟨.dictionary results',
      Check.yields_dictionary.mpr ⟨_, results', rfl, hagain, rfl⟩, ?_⟩
    rw [Output.toJson?, Output.toJson?, heq]
  · intro value output hyields
    obtain ⟨object, results, _, _, rfl⟩ := Check.yields_dictionary.mp hyields
    rfl

theorem optional (h : Rereads check check') :
    Rereads (Check.optional check) (Check.optional check') := by
  constructor
  · intro input output hyields
    cases input with
    | none =>
      obtain rfl := (yields_ofValue _ _).mp hyields
      exact ⟨.undefined, rfl, rfl⟩
    | some value =>
      obtain ⟨inner, hinner, rfl⟩ := yields_mapValue.mp hyields
      obtain ⟨found, output', hfound, hagain, heq⟩ := h.value hinner
      refine ⟨.present output', ?_, by simp [Output.toJson?, hfound, heq]⟩
      rw [Output.toJson?, hfound]
      exact yields_mapValue.mpr ⟨output', hagain, rfl⟩
  · intro value output hyields
    obtain ⟨inner, hinner, rfl⟩ := yields_mapValue.mp hyields
    exact h.present value inner hinner

theorem ensure {accepts : Output → Bool} (reason : Reason)
    (haccepts : ∀ output output' : Output, output.toJson? = output'.toJson? →
      accepts output = accepts output')
    (h : Rereads check check') :
    Rereads (Check.ensure accepts reason check) (Check.ensure accepts reason check') := by
  constructor
  · intro input output hyields
    obtain ⟨hinner, haccepted⟩ := Check.yields_ensure.mp hyields
    obtain ⟨output', hagain, heq⟩ := h.again input output hinner
    have haccepted' : accepts output' := (haccepts output' output heq).trans haccepted
    exact ⟨output', Check.yields_ensure.mpr ⟨hagain, haccepted'⟩, heq⟩
  · intro value output hyields
    exact h.present value output (Check.yields_ensure.mp hyields).1

/-- A fallback is accepted again if the inner check rejects it or leaves it as it is. -/
theorem fallback {default : Output} (hdefault : default.toJson?.isSome)
    (hinner : ∃ outcome, check' default.toJson? () = some (outcome, ()) ∧
      ∀ output, outcome = .ok output → output.toJson? = default.toJson?)
    (h : Rereads check check') :
    Rereads (Check.fallback default check) (Check.fallback default check') := by
  have hcases : ∀ input output, (Check.fallback default check input).Yields output →
      (check input).Yields output ∨ output = default := by
    intro input output hyields
    obtain ⟨outcome, hrun, hvalue⟩ := yields_settle.mp hyields
    obtain rfl := (yields_ofValue _ _).mp hvalue
    cases outcome with
    | error fault => exact .inr rfl
    | ok value => exact .inl hrun
  have hyields_of : ∀ input outcome, check' input () = some (outcome, ()) →
      (Check.fallback default check' input).Yields (outcome.getD default) :=
    fun _ outcome hrun => yields_settle.mpr ⟨outcome, hrun, (yields_ofValue _ _).mpr rfl⟩
  constructor
  · intro input output hyields
    rcases hcases input output hyields with hpassed | rfl
    · obtain ⟨output', hagain, heq⟩ := h.again input output hpassed
      exact ⟨output', hyields_of _ (.ok output') hagain, heq⟩
    · obtain ⟨outcome, hrun, hkept⟩ := hinner
      refine ⟨outcome.getD output, hyields_of _ outcome hrun, ?_⟩
      cases outcome with
      | error fault => rfl
      | ok output' => exact hkept output' rfl
  · intro value output hyields
    rcases hcases (some value) output hyields with hpassed | rfl
    · exact h.present value output hpassed
    · exact hdefault

section Lists

variable {members : List ι} {checks checks' : ι → Check Unit}

theorem places (h : ∀ member ∈ members, Rereads (checks member) (checks' member))
    {values : List Json} {outputs : List Output} (hlength : values.length = members.length)
    (houtputs : List.Forall₂ (fun place output => (place.1 (some place.2)).Yields output)
      ((members.map checks).zip values) outputs) :
    ∃ outputs', (Output.itemsJson outputs).length = members.length ∧
      List.Forall₂ (fun place output => (place.1 (some place.2)).Yields output)
        ((members.map checks').zip (Output.itemsJson outputs)) outputs' ∧
          Output.itemsJson outputs' = Output.itemsJson outputs := by
  induction members generalizing values outputs with
  | nil =>
    obtain rfl := List.forall₂_nil_left_iff.mp houtputs
    exact ⟨[], rfl, .nil, rfl⟩
  | cons member members ih =>
    obtain ⟨hmember, hmembers⟩ := List.forall_mem_cons.mp h
    cases values with
    | nil => exact absurd hlength (by simp)
    | cons value values =>
      cases houtputs with
      | cons hfirst hrest =>
        obtain ⟨found, output', hfound, hagain, heq⟩ := hmember.value hfirst
        obtain ⟨others, hcount, hothers, heqs⟩ := ih hmembers (Nat.succ.inj hlength) hrest
        refine ⟨output' :: others, congrArg Nat.succ hcount, ?_, ?_⟩
        · rw [Output.itemsJson, hfound]
          exact .cons hagain hothers
        · simp only [Output.itemsJson, hfound, heq, heqs]

theorem tuple (h : ∀ member ∈ members, Rereads (checks member) (checks' member)) :
    Rereads (Check.tuple (members.map checks)) (Check.tuple (members.map checks')) := by
  constructor
  · intro input output hyields
    obtain ⟨values, outputs, _, hlength, houtputs, rfl⟩ := Check.yields_tuple.mp hyields
    rw [List.length_map] at hlength
    obtain ⟨outputs', hcount, hagain, heq⟩ := places h hlength houtputs
    have hcount' : (Output.itemsJson outputs).length = (members.map checks').length := by
      rw [hcount, List.length_map]
    refine ⟨.list outputs', Check.yields_tuple.mpr ⟨_, outputs', rfl, hcount', hagain, rfl⟩, ?_⟩
    rw [Output.toJson?, Output.toJson?, heq]
  · intro value output hyields
    obtain ⟨values, outputs, _, _, _, rfl⟩ := Check.yields_tuple.mp hyields
    rfl

end Lists

section Rows

variable {declared : Entries ι} (checks checks' : ι → Check Unit)

/-- Any object that has under the declared names what the fields have produced gives the
same fields again. -/
theorem fields (h : ∀ entry ∈ declared, Rereads (checks entry.2) (checks' entry.2))
    {object object' : Entries Json} {results : Entries Output}
    (hresults : List.Forall₂ (Check.FieldProduces object)
      (declared.map fun entry => (entry.1, checks entry.2)) results)
    (hobject' : ∀ result ∈ results, Entries.get? object' result.1 = result.2.toJson?) :
    ∃ results', List.Forall₂ (Check.FieldProduces object')
      (declared.map fun entry => (entry.1, checks' entry.2)) results' ∧
        Output.entriesJson results' = Output.entriesJson results := by
  induction declared generalizing results with
  | nil =>
    obtain rfl := List.forall₂_nil_left_iff.mp hresults
    exact ⟨[], .nil, rfl⟩
  | cons entry declared ih =>
    obtain ⟨hentry, hdeclared⟩ := List.forall_mem_cons.mp h
    cases hresults with
    | @cons _ result _ results hfirst hrest =>
      obtain ⟨hfound, hfounds⟩ := List.forall_mem_cons.mp hobject'
      obtain ⟨output', hagain, heq⟩ := hentry.again _ _ hfirst.2
      obtain ⟨others, hothers, heqs⟩ := ih hdeclared hrest hfounds
      have hname : entry.1 = result.1 := hfirst.1
      rw [← hfound, ← hname] at hagain
      refine ⟨(result.1, output') :: others, .cons ⟨hname, hagain⟩ hothers, ?_⟩
      simp only [Output.entriesJson, heq, heqs]

/-- The object that is produced has under the declared names what the fields have
produced. -/
theorem fields_again (hnodup : (Entries.keys declared).Nodup)
    (h : ∀ entry ∈ declared, Rereads (checks entry.2) (checks' entry.2))
    {object : Entries Json} {results : Entries Output}
    (hresults : List.Forall₂ (Check.FieldProduces object)
      (declared.map fun entry => (entry.1, checks entry.2)) results) :
    Entries.keys results = Entries.keys declared ∧
      ∃ results', List.Forall₂ (Check.FieldProduces (Output.entriesJson results))
        (declared.map fun entry => (entry.1, checks' entry.2)) results' ∧
          Output.entriesJson results' = Output.entriesJson results := by
  have hkeys : Entries.keys results = Entries.keys declared := by
    rw [Entries.keys_of_forall₂ (fun _ _ hproduces => hproduces.1) hresults, Entries.keys_map]
  refine ⟨hkeys, fields checks checks' h hresults fun result hresult => ?_⟩
  have hnodup' : (Entries.keys results).Nodup := hkeys ▸ hnodup
  rw [Output.get?_entriesJson hnodup', Entries.get?_of_mem hnodup' hresult, Option.bind_some]

theorem record (hnodup : (Entries.keys declared).Nodup)
    (h : ∀ entry ∈ declared, Rereads (checks entry.2) (checks' entry.2)) :
    Rereads (Check.record (declared.map fun entry => (entry.1, checks entry.2)))
      (Check.record (declared.map fun entry => (entry.1, checks' entry.2))) := by
  constructor
  · intro input output hyields
    obtain ⟨object, results, _, hresults, rfl⟩ := Check.yields_record.mp hyields
    obtain ⟨_, results', hagain, heq⟩ := fields_again checks checks' hnodup h hresults
    exact ⟨_, Check.yields_record.mpr ⟨_, results', rfl, hagain, rfl⟩, by rw [heq]⟩
  · intro value output hyields
    obtain ⟨object, results, _, _, rfl⟩ := Check.yields_record.mp hyields
    rfl

theorem closedRecord (hnodup : (Entries.keys declared).Nodup)
    (h : ∀ entry ∈ declared, Rereads (checks entry.2) (checks' entry.2)) :
    Rereads (Check.closedRecord (declared.map fun entry => (entry.1, checks entry.2)))
      (Check.closedRecord (declared.map fun entry => (entry.1, checks' entry.2))) := by
  constructor
  · intro input output hyields
    obtain ⟨object, results, _, hresults, _, rfl⟩ := Check.yields_closedRecord.mp hyields
    obtain ⟨hkeys, results', hagain, heq⟩ := fields_again checks checks' hnodup h hresults
    have hdeclared : Check.undeclared?
        (declared.map fun entry => (entry.1, checks' entry.2)) (Output.entriesJson results) =
          none := by
      refine List.find?_eq_none.mpr fun key hkey => ?_
      have hmem := (Output.keys_entriesJson_sublist results).subset hkey
      rw [hkeys, ← Entries.keys_map checks'] at hmem
      rw [Entries.contains, (Entries.isSome_get?_iff _ key).mpr hmem]
      simp
    exact ⟨_, Check.yields_closedRecord.mpr ⟨_, results', rfl, hagain, hdeclared, rfl⟩,
      by rw [heq]⟩
  · intro value output hyields
    obtain ⟨object, results, _, _, _, rfl⟩ := Check.yields_closedRecord.mp hyields
    rfl

end Rows

end Rereads

end JsonValidators
