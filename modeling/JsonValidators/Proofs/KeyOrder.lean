import JsonValidators.Proofs.Endings
import JsonValidators.Proofs.Reordering
import JsonValidators.Proofs.Scenario
import JsonValidators.Proofs.Unfolding

/-!
The order of keys does not matter. On reorderings of a value a validator comes to the same
verdict and to reorderings of one output, unless a function of the caller's looks at the
order of keys in between. Two runs are compared, check by check.
-/

namespace JsonValidators

open Run

namespace Check

/-- From reorderings of one input the check produces reorderings of one output, and it
does not pass one of them and fail on another. Which fault it ends in may differ. -/
structure IgnoresOrder (check : Check Unit) : Prop where
  outputs {input input' : Option Json} {output output' : Output} :
    Option.Rel Json.Reordered input input' → (check input).Yields output →
      (check input').Yields output' → output.Reordered output'
  verdict {input input' : Option Json} {output : Output} {fault : Fault} :
    Option.Rel Json.Reordered input input' → (check input).Yields output →
      ¬ (check input').Fails fault

variable {check : Check Unit}

theorem Passes.ignoresOrder {kind : Kind} (h : Passes kind check) : check.IgnoresOrder := by
  constructor
  · intro input input' output output' hinput hyields hyields'
    obtain ⟨_, rfl⟩ := h.yields_iff.mp hyields
    obtain ⟨_, rfl⟩ := h.yields_iff.mp hyields'
    exact Output.reordered_ofOption hinput
  · intro input input' output fault hinput hyields hfails
    obtain ⟨hkind, _⟩ := h.yields_iff.mp hyields
    obtain ⟨hkind', _⟩ := h.fails_iff.mp hfails
    exact hkind' (Json.reordered_kind_eq hinput ▸ hkind)

theorem anything_ignoresOrder : IgnoresOrder anything := by
  constructor
  · intro input input' output output' hinput hyields hyields'
    obtain rfl := (yields_ofValue _ _).mp hyields
    obtain rfl := (yields_ofValue _ _).mp hyields'
    exact Output.reordered_ofOption hinput
  · intro input input' output fault _ _ hfails
    exact not_fails_ofValue _ _ hfails

theorem number_ignoresOrder : IgnoresOrder number := by
  constructor
  · intro input input' output output' hinput hyields hyields'
    obtain ⟨value, rfl, rfl⟩ := yields_number.mp hyields
    obtain ⟨value', rfl, rfl⟩ := yields_number.mp hyields'
    cases hinput with
    | some hvalue =>
      cases hvalue
      exact .float _
  · intro input input' output fault hinput hyields hfails
    obtain ⟨value, rfl, _⟩ := yields_number.mp hyields
    obtain ⟨hkind, _⟩ := fails_number.mp hfails
    exact hkind (Json.reordered_kind_eq hinput).symm

theorem always_ignoresOrder {output : Output} (h : output.KeysDistinct) :
    IgnoresOrder (always output) := by
  constructor
  · intro input input' first second _ hyields hyields'
    obtain rfl := (yields_ofValue _ _).mp hyields
    obtain rfl := (yields_ofValue _ _).mp hyields'
    exact h
  · intro input input' first fault _ _ hfails
    exact not_fails_ofValue _ _ hfails

theorem exhausted_ignoresOrder : IgnoresOrder fun _ => Run.exhausted := by
  constructor
  · intro input input' output output' _ hyields _
    cases hyields
  · intro input input' output fault _ hyields _
    cases hyields

theorem never_ignoresOrder (message : String) : IgnoresOrder (never message) := by
  constructor
  · intro input input' output output' _ hyields _
    exact absurd hyields (not_yields_ofReason _ _)
  · intro input input' output fault _ hyields _
    exact not_yields_ofReason _ _ hyields

/-- The constant is produced as it is, and what it is equivalent to has no order. -/
theorem constant_ignoresOrder {literal : Literal} (h : literal.toOutput.KeysDistinct) :
    IgnoresOrder (constant literal Json.equivalent) := by
  constructor
  · intro input input' output output' _ hyields hyields'
    obtain ⟨_, rfl⟩ := yields_constant.mp hyields
    obtain ⟨_, rfl⟩ := yields_constant.mp hyields'
    exact h
  · intro input input' output fault hinput hyields hfails
    obtain ⟨⟨value, rfl, haccepts⟩, _⟩ := yields_constant.mp hyields
    obtain ⟨hrejects, _⟩ := fails_constant.mp hfails
    obtain ⟨value', rfl, hvalue⟩ := exists_right_of_rel hinput
    exact hrejects value' rfl ((hvalue.equivalent_iff _).mp haccepts)

section Containers

/-- Related inputs, the first of which is an array. -/
theorem reordered_array {values : List Json} {input : Option Json}
    (h : Option.Rel Json.Reordered (some (.array values)) input) :
    ∃ values', input = some (.array values') ∧ List.Forall₂ Json.Reordered values values' := by
  obtain ⟨value, rfl, hvalue⟩ := exists_right_of_rel h
  obtain ⟨values', rfl, hvalues⟩ := hvalue.items
  exact ⟨values', rfl, hvalues⟩

theorem reordered_object {object : Entries Json} {input : Option Json}
    (h : Option.Rel Json.Reordered (some (.object object)) input) :
    ∃ object', input = some (.object object') ∧
      Entries.Matched Json.Reordered object object' := by
  obtain ⟨value, rfl, hvalue⟩ := exists_right_of_rel h
  obtain ⟨object', rfl, hobject⟩ := hvalue.entries
  exact ⟨object', rfl, hobject⟩

theorem list_ignoresOrder (h : check.IgnoresOrder) : IgnoresOrder (list check) := by
  constructor
  · intro input input' output output' hinput hyields hyields'
    obtain ⟨values, outputs, rfl, houtputs, rfl⟩ := yields_list.mp hyields
    obtain ⟨values', hvalues', hrelated⟩ := reordered_array hinput
    obtain ⟨_, outputs', rfl, houtputs', rfl⟩ := yields_list.mp hyields'
    obtain rfl := Json.array.inj (Option.some.inj hvalues')
    exact .of_items (forall₂_made hrelated houtputs houtputs'
      fun _ _ _ _ hvalue => h.outputs (.some hvalue))
  · intro input input' output fault hinput hyields hfails
    obtain ⟨values, outputs, rfl, houtputs, _⟩ := yields_list.mp hyields
    obtain ⟨values', rfl, hrelated⟩ := reordered_array hinput
    rcases list_fails hfails with ⟨hkind, _⟩ | ⟨_, position, value', inner, heq, hvalue', hown, _⟩
    · exact hkind rfl
    · obtain rfl := Json.array.inj (Option.some.inj heq)
      obtain ⟨value, hvalue, hreordered⟩ :=
        exists_left_of_rel (hvalue' ▸ rel_getElem?_of_forall₂ hrelated position)
      obtain ⟨passed, _, hpassed⟩ :=
        exists_right_of_forall₂ houtputs (List.mem_of_getElem? hvalue)
      exact h.verdict (.some hreordered) hpassed hown

theorem tuple_ignoresOrder {elements : List (Check Unit)}
    (h : ∀ element ∈ elements, element.IgnoresOrder) : IgnoresOrder (tuple elements) := by
  constructor
  · intro input input' output output' hinput hyields hyields'
    obtain ⟨values, outputs, rfl, _, houtputs, rfl⟩ := yields_tuple.mp hyields
    obtain ⟨values', hvalues', hrelated⟩ := reordered_array hinput
    obtain ⟨_, outputs', rfl, _, houtputs', rfl⟩ := yields_tuple.mp hyields'
    obtain rfl := Json.array.inj (Option.some.inj hvalues')
    exact .of_items (forall₂_made (forall₂_zip_right hrelated elements) houtputs houtputs'
      fun place place' _ _ hplace hown hown' => by
        obtain ⟨hmem, heq, hvalue⟩ := hplace
        rw [← heq] at hown'
        exact (h place.1 hmem).outputs (.some hvalue) hown hown')
  · intro input input' output fault hinput hyields hfails
    obtain ⟨values, outputs, rfl, hlength, houtputs, _⟩ := yields_tuple.mp hyields
    obtain ⟨values', rfl, hrelated⟩ := reordered_array hinput
    have hlength' := hrelated.length_eq
    rcases tuple_fails hfails with ⟨hkind, _⟩ | ⟨_, heq, hother, _⟩ |
      ⟨_, position, element, value', inner, heq, helement, hvalue', hown, _⟩
    · exact hkind rfl
    · obtain rfl := Json.array.inj (Option.some.inj heq)
      omega
    · obtain rfl := Json.array.inj (Option.some.inj heq)
      obtain ⟨value, hvalue, hreordered⟩ :=
        exists_left_of_rel (hvalue' ▸ rel_getElem?_of_forall₂ hrelated position)
      have hplace : (elements.zip values)[position]? = some (element, value) :=
        List.getElem?_zip_eq_some.mpr ⟨helement, hvalue⟩
      obtain ⟨passed, _, hpassed⟩ :=
        exists_right_of_forall₂ houtputs (List.mem_of_getElem? hplace)
      exact (h element (List.mem_of_getElem? helement)).verdict (.some hreordered) hpassed hown

theorem dictionary_ignoresOrder (h : check.IgnoresOrder) : IgnoresOrder (dictionary check) := by
  constructor
  · intro input input' output output' hinput hyields hyields'
    obtain ⟨object, results, rfl, hresults, rfl⟩ := yields_dictionary.mp hyields
    obtain ⟨object', hobject', hmatched⟩ := reordered_object hinput
    obtain ⟨_, results', rfl, hresults', rfl⟩ := yields_dictionary.mp hyields'
    obtain rfl := Json.object.inj (Option.some.inj hobject')
    have houtputs : Entries.Matched Output.Reordered results results' :=
      hmatched.results (fun _ _ hproduces => hproduces.1) (fun _ _ hproduces => hproduces.1)
        hresults hresults' fun _ _ _ _ _ hvalue hown hown' =>
          h.outputs (.some hvalue) hown.2 hown'.2
    exact .dictionary houtputs.nodup houtputs.perm houtputs.related
  · intro input input' output fault hinput hyields hfails
    obtain ⟨object, results, rfl, hresults, _⟩ := yields_dictionary.mp hyields
    obtain ⟨object', rfl, hmatched⟩ := reordered_object hinput
    rcases dictionary_fails hfails with ⟨hkind, _⟩ | ⟨_, heq, entry', hentry', inner, hown, _⟩
    · exact hkind rfl
    · obtain rfl := Json.object.inj (Option.some.inj heq)
      obtain ⟨value, hvalue, hreordered⟩ := hmatched.flip.exists_right hentry'
      obtain ⟨result, _, hproduces⟩ :=
        exists_right_of_forall₂ hresults (Entries.mem_of_get? hvalue)
      exact h.verdict (.some hreordered) hproduces.2 hown

variable {declared : Entries (Check Unit)} {object object' : Entries Json}

/-- The declared fields have an order of their own. -/
theorem matched_fields (hnodup : (Entries.keys declared).Nodup)
    (h : ∀ field ∈ declared, field.2.IgnoresOrder)
    (hobject : Entries.Matched Json.Reordered object object')
    {results results' : Entries Output}
    (hresults : List.Forall₂ (FieldProduces object) declared results)
    (hresults' : List.Forall₂ (FieldProduces object') declared results') :
    Entries.Matched Json.Reordered (Output.entriesJson results) (Output.entriesJson results') := by
  have hdeclared : Entries.Matched (fun check check' => check = check' ∧ check.IgnoresOrder)
      declared declared := by
    refine ⟨hnodup, .refl _, fun name check check' hcheck hcheck' => ?_⟩
    exact ⟨Option.some.inj (hcheck.symm.trans hcheck'), h _ (Entries.mem_of_get? hcheck)⟩
  apply Output.matched_entriesJson
  refine hdeclared.results (fun _ _ hproduces => hproduces.1) (fun _ _ hproduces => hproduces.1)
    hresults hresults' fun name check check' output output' hcheck hown hown' => ?_
  obtain ⟨rfl, hignores⟩ := hcheck
  exact (hignores.outputs (hobject.get? name) hown.2 hown'.2).toJson?

/-- What passes in one object does not fail in a reordering of it. -/
theorem fields_verdict (h : ∀ field ∈ declared, field.2.IgnoresOrder)
    (hobject : Entries.Matched Json.Reordered object object') {results : Entries Output}
    (hresults : List.Forall₂ (FieldProduces object) declared results)
    {field : String × Check Unit} (hfield : field ∈ declared) {inner : Fault} :
    ¬ (field.2 (Entries.get? object' field.1)).Fails inner := by
  intro hfails
  obtain ⟨result, _, hproduces⟩ := exists_right_of_forall₂ hresults hfield
  exact (h field hfield).verdict (hobject.get? field.1) hproduces.2 hfails

theorem record_ignoresOrder (hnodup : (Entries.keys declared).Nodup)
    (h : ∀ field ∈ declared, field.2.IgnoresOrder) : IgnoresOrder (record declared) := by
  constructor
  · intro input input' output output' hinput hyields hyields'
    obtain ⟨object, results, rfl, hresults, rfl⟩ := yields_record.mp hyields
    obtain ⟨object', hobject', hmatched⟩ := reordered_object hinput
    obtain ⟨_, results', rfl, hresults', rfl⟩ := yields_record.mp hyields'
    obtain rfl := Json.object.inj (Option.some.inj hobject')
    exact .json (.of_entries (matched_fields hnodup h hmatched hresults hresults'))
  · intro input input' output fault hinput hyields hfails
    obtain ⟨object, results, rfl, hresults, _⟩ := yields_record.mp hyields
    obtain ⟨object', rfl, hmatched⟩ := reordered_object hinput
    rcases record_fails hfails with ⟨hkind, _⟩ | ⟨_, heq, field, hfield, inner, hown, _⟩
    · exact hkind rfl
    · obtain rfl := Json.object.inj (Option.some.inj heq)
      exact fields_verdict h hmatched hresults hfield hown

/-- Which key is reported depends on the order, whether one is reported does not. -/
theorem closedRecord_ignoresOrder (hnodup : (Entries.keys declared).Nodup)
    (h : ∀ field ∈ declared, field.2.IgnoresOrder) : IgnoresOrder (closedRecord declared) := by
  constructor
  · intro input input' output output' hinput hyields hyields'
    obtain ⟨object, results, rfl, hresults, _, rfl⟩ := yields_closedRecord.mp hyields
    obtain ⟨object', hobject', hmatched⟩ := reordered_object hinput
    obtain ⟨_, results', rfl, hresults', _, rfl⟩ := yields_closedRecord.mp hyields'
    obtain rfl := Json.object.inj (Option.some.inj hobject')
    exact .json (.of_entries (matched_fields hnodup h hmatched hresults hresults'))
  · intro input input' output fault hinput hyields hfails
    obtain ⟨object, results, rfl, hresults, hnone, _⟩ := yields_closedRecord.mp hyields
    obtain ⟨object', rfl, hmatched⟩ := reordered_object hinput
    rcases closedRecord_fails hfails with ⟨hkind, _⟩ | ⟨_, heq, field, hfield, inner, hown, _⟩ |
      ⟨_, results', key, heq, _, hkey, _⟩
    · exact hkind rfl
    · obtain rfl := Json.object.inj (Option.some.inj heq)
      exact fields_verdict h hmatched hresults hfield hown
    · obtain rfl := Json.object.inj (Option.some.inj heq)
      have hnone' : undeclared? declared object' = none := List.find?_eq_none.mpr
        fun other hother => List.find?_eq_none.mp hnone other (hmatched.perm.mem_iff.mpr hother)
      exact absurd (hnone'.symm.trans hkey) nofun

end Containers

section Choices

theorem optional_ignoresOrder (h : check.IgnoresOrder) : IgnoresOrder (optional check) := by
  constructor
  · intro input input' output output' hinput hyields hyields'
    rcases yields_optional.mp hyields with ⟨rfl, rfl⟩ | ⟨value, inner, rfl, hinner, rfl⟩
    · rcases yields_optional.mp hyields' with ⟨rfl, rfl⟩ | ⟨value', inner', rfl, hinner', rfl⟩
      · exact .undefined
      · cases hinput
    · rcases yields_optional.mp hyields' with ⟨rfl, rfl⟩ | ⟨value', inner', rfl, hinner', rfl⟩
      · cases hinput
      · exact .present (h.outputs hinput hinner hinner')
  · intro input input' output fault hinput hyields hfails
    obtain ⟨value', rfl, hown⟩ := optional_fails hfails
    rcases yields_optional.mp hyields with ⟨rfl, _⟩ | ⟨value, inner, rfl, hinner, _⟩
    · cases hinput
    · exact h.verdict hinput hinner hown

/-- The same alternative is the first to pass. -/
theorem alternatives_outputs {branches : List (Check Unit)}
    (h : ∀ branch ∈ branches, branch.IgnoresOrder) {input input' : Option Json}
    (hinput : Option.Rel Json.Reordered input input') {entries entries' : List String}
    {output output' : Output} (hyields : (alternatives input entries branches).Yields output)
    (hyields' : (alternatives input' entries' branches).Yields output') :
    output.Reordered output' := by
  induction branches generalizing entries entries' with
  | nil => exact absurd hyields (not_yields_ofReason _ _)
  | cons branch branches ih =>
    obtain ⟨hbranch, hbranches⟩ := List.forall_mem_cons.mp h
    obtain ⟨fault | first, hrun, hrest⟩ := yields_settle.mp hyields
    · obtain ⟨fault' | first', hrun', hrest'⟩ := yields_settle.mp hyields'
      · exact ih hbranches hrest hrest'
      · exact absurd hrun (hbranch.verdict (Json.reordered_symm hinput) hrun')
    · obtain ⟨fault' | first', hrun', hrest'⟩ := yields_settle.mp hyields'
      · exact absurd hrun' (hbranch.verdict hinput hrun)
      · obtain rfl := (yields_ofValue _ _).mp hrest
        obtain rfl := (yields_ofValue _ _).mp hrest'
        exact hbranch.outputs hinput hrun hrun'

theorem firstOf_ignoresOrder {branches : List (Check Unit)}
    (h : ∀ branch ∈ branches, branch.IgnoresOrder) : IgnoresOrder (firstOf branches) := by
  constructor
  · exact fun hinput hyields hyields' => alternatives_outputs h hinput hyields hyields'
  · intro input input' output fault hinput hyields hfails
    obtain ⟨branch, hbranch, hpassed⟩ := firstOf_yields hyields
    obtain ⟨faults, hfaults, _⟩ := fails_firstOf.mp hfails
    obtain ⟨other, _, hown⟩ := exists_right_of_forall₂ hfaults hbranch
    exact (h branch hbranch).verdict hinput hpassed hown

theorem intersection_ignoresOrder {checks : List (Check Unit)}
    (h : ∀ check ∈ checks, check.IgnoresOrder) : IgnoresOrder (intersection checks) := by
  constructor
  · intro input input' output output' hinput hyields hyields'
    obtain ⟨outputs, houtputs, rfl⟩ := yields_intersection.mp hyields
    obtain ⟨outputs', houtputs', rfl⟩ := yields_intersection.mp hyields'
    have hchecks : List.Forall₂ (fun check check' => check = check' ∧ check.IgnoresOrder)
        checks checks := List.forall₂_same.mpr fun check hcheck => ⟨rfl, h check hcheck⟩
    have hrelated : List.Forall₂ Output.Reordered outputs outputs' := by
      refine forall₂_made hchecks houtputs houtputs' fun check check' _ _ hcheck hown hown' => ?_
      obtain ⟨rfl, hignores⟩ := hcheck
      exact hignores.outputs hinput hown hown'
    exact .json (.of_entries (Output.reordered_merged hrelated .nil))
  · intro input input' output fault hinput hyields hfails
    obtain ⟨outputs, houtputs, _⟩ := yields_intersection.mp hyields
    obtain ⟨check, hcheck, hown⟩ := intersection_fails hfails
    obtain ⟨passed, _, hpassed⟩ := exists_right_of_forall₂ houtputs hcheck
    exact (h check hcheck).verdict hinput hpassed hown

theorem fallback_ignoresOrder {default : Output} (hdefault : default.KeysDistinct)
    (h : check.IgnoresOrder) : IgnoresOrder (fallback default check) := by
  constructor
  · intro input input' output output' hinput hyields hyields'
    obtain ⟨outcome, hrun, hlast⟩ := yields_settle.mp hyields
    obtain ⟨outcome', hrun', hlast'⟩ := yields_settle.mp hyields'
    obtain rfl := (yields_ofValue _ _).mp hlast
    obtain rfl := (yields_ofValue _ _).mp hlast'
    rcases outcome with fault | value
    · rcases outcome' with fault' | value'
      · exact hdefault
      · exact absurd hrun (h.verdict (Json.reordered_symm hinput) hrun')
    · rcases outcome' with fault' | value'
      · exact absurd hrun' (h.verdict hinput hrun)
      · exact h.outputs hinput hrun hrun'
  · intro input input' output fault _ _ hfails
    exact fallback_not_fails default hfails

/-- Steps lead to reorderings in both inputs, or nowhere in both. -/
theorem walk_reordered {walked : Path} {segments : List Segment} {input input' found : Option Json}
    (hinput : Option.Rel Json.Reordered input input')
    (h : walk walked segments input = .ok found) :
    ∃ found', walk walked segments input' = .ok found' ∧
      Option.Rel Json.Reordered found found' := by
  induction segments generalizing walked input input' with
  | nil =>
    obtain rfl := Except.ok.inj h
    exact ⟨input', rfl, hinput⟩
  | cons segment segments ih =>
    cases hinput with
    | none => cases h
    | @some value value' hvalue =>
      rw [walk_cons] at h ⊢
      rw [← hvalue.kind_eq]
      by_cases hkind : Kind.of (some value) = segment.container
      · rw [if_pos hkind] at h ⊢
        exact ih (hvalue.step segment) h
      · rw [if_neg hkind] at h
        cases h

theorem follow_ignoresOrder (path : Path) (h : check.IgnoresOrder) :
    IgnoresOrder (follow path check) := by
  constructor
  · intro input input' output output' hinput hyields hyields'
    obtain ⟨found, hfound, hown⟩ := yields_follow.mp hyields
    obtain ⟨other, hother, hown'⟩ := yields_follow.mp hyields'
    obtain ⟨found', hfound', hrelated⟩ := walk_reordered hinput hfound
    obtain rfl := Except.ok.inj (hother.symm.trans hfound')
    exact h.outputs hrelated hown hown'
  · intro input input' output fault hinput hyields hfails
    obtain ⟨found, hfound, hown⟩ := yields_follow.mp hyields
    obtain ⟨found', hfound', hrelated⟩ := walk_reordered hinput hfound
    rcases follow_fails hfails with hwalk | ⟨other, inner, hother, hinner, _⟩
    · cases hfound'.symm.trans hwalk
    · obtain rfl := Except.ok.inj (hother.symm.trans hfound')
      exact h.verdict hrelated hown hinner

theorem map_ignoresOrder {change : Output → Output}
    (hchange : ∀ output output', output.Reordered output' →
      (change output).Reordered (change output'))
    (h : check.IgnoresOrder) : IgnoresOrder (map change check) := by
  constructor
  · intro input input' output output' hinput hyields hyields'
    obtain ⟨inner, hinner, rfl⟩ := yields_map.mp hyields
    obtain ⟨inner', hinner', rfl⟩ := yields_map.mp hyields'
    exact hchange inner inner' (h.outputs hinput hinner hinner')
  · intro input input' output fault hinput hyields hfails
    obtain ⟨inner, hinner, _⟩ := yields_map.mp hyields
    exact h.verdict hinput hinner (fails_map.mp hfails)

theorem ensure_ignoresOrder {accepts : Output → Bool} (reason : Reason)
    (haccepts : ∀ output output', output.Reordered output' → accepts output = accepts output')
    (h : check.IgnoresOrder) : IgnoresOrder (ensure accepts reason check) := by
  constructor
  · intro input input' output output' hinput hyields hyields'
    exact h.outputs hinput (yields_ensure.mp hyields).1 (yields_ensure.mp hyields').1
  · intro input input' output fault hinput hyields hfails
    obtain ⟨hpassed, haccepted⟩ := yields_ensure.mp hyields
    rcases fails_ensure.mp hfails with hinner | ⟨output', hpassed', hrejected, _⟩
    · exact h.verdict hinput hpassed hinner
    · have hsame := haccepts output output' (h.outputs hinput hpassed hpassed')
      exact hrejected (hsame ▸ haccepted)

end Choices

end Check

namespace Validator

/-- What an expression may itself be if the order of keys is not to matter. Constants and
outputs that it gives have no key twice, and functions on outputs do not look at the
order of keys. -/
def OrderBlind : Validator → Prop
  | constant literal accepts => accepts = Json.equivalent ∧ literal.toOutput.KeysDistinct
  | always output => output.KeysDistinct
  | fallback default _ => default.KeysDistinct
  | map change _ => ∀ output output', output.Reordered output' →
      (change output).Reordered (change output')
  | ensure accepts _ _ => ∀ output output' : Output, output.Reordered output' →
      accepts output = accepts output'
  | select _ _ _ | continueWith _ _ => False
  | _ => True

/-- A pattern looks at strings only. -/
theorem matching_orderBlind (pattern : String) (accepts : String → Bool) (inner : Validator) :
    (matching pattern accepts inner).OrderBlind := by
  intro output output' h
  show output.string?.any accepts = output'.string?.any accepts
  rw [h.string?_eq]

theorem asJson_orderBlind (inner : Validator) : (asJson inner).OrderBlind :=
  fun _ _ h => Output.reordered_ofOption h.toJson?

theorem ignoresOrder_compositional (body : String → Validator) :
    Compositional body OrderBlind fun _ check => check.IgnoresOrder where
  exhausted _ := Check.exhausted_ignoresOrder
  string := Check.string_passes.ignoresOrder
  number := Check.number_ignoresOrder
  boolean := Check.boolean_passes.ignoresOrder
  undefined := Check.undefined_passes.ignoresOrder
  anything := Check.anything_ignoresOrder
  array := Check.array_passes.ignoresOrder
  object := Check.object_passes.ignoresOrder
  constant literal accepts hform := by
    obtain ⟨rfl, hdistinct⟩ := hform
    exact Check.constant_ignoresOrder hdistinct
  always _ hform := Check.always_ignoresOrder hform
  never message _ := Check.never_ignoresOrder message
  record declarations checks _ _ h := by
    apply Check.record_ignoresOrder _ (List.forall_mem_map.mpr h)
    rw [Entries.keys_map]
    exact Entries.nodup_keys_ofList declarations
  closedRecord declarations checks _ _ h := by
    apply Check.closedRecord_ignoresOrder _ (List.forall_mem_map.mpr h)
    rw [Entries.keys_map]
    exact Entries.nodup_keys_ofList declarations
  dictionary _ _ _ h := Check.dictionary_ignoresOrder h
  list _ _ _ h := Check.list_ignoresOrder h
  tuple elements checks _ h := Check.tuple_ignoresOrder (List.forall_mem_map.mpr h)
  optional _ _ _ h := Check.optional_ignoresOrder h
  firstOf branches checks _ h := Check.firstOf_ignoresOrder (List.forall_mem_map.mpr h)
  intersection parts checks _ _ h := Check.intersection_ignoresOrder (List.forall_mem_map.mpr h)
  fallback _ _ _ hform h := Check.fallback_ignoresOrder hform h
  follow path _ _ _ h := Check.follow_ignoresOrder path h
  map _ _ _ hform h := Check.map_ignoresOrder hform h
  ensure _ reason _ _ hform h := Check.ensure_ignoresOrder reason hform h
  select _ _ _ _ hform := hform.elim
  continueWith _ _ _ hform := hform.elim
  rebuilt _ _ h := h
  remembered _ _ h := h
  shared _ _ _ h := h

end Validator

namespace Scenario

/-- Whatever has been checked before, and however deep references are followed: of two
inputs that are reorderings of one another, if both checks end, both pass and the outputs
are reorderings of one another, or both fail. -/
theorem check_ignores_key_order {scenario : Scenario} {memory memory' later later' : Memory}
    (h : scenario.Reached memory) (hlater : scenario.Reached later) {stages stages' number : Nat}
    {input input' : Option Json} (hinput : Option.Rel Json.Reordered input input')
    (hblind : (scenario.live number).validator.MadeOf scenario.body Validator.OrderBlind)
    {outcome outcome' : Outcome Failure Output}
    (hcheck : scenario.check stages number input memory = some (outcome, memory'))
    (hcheck' : scenario.check stages' number input' later = some (outcome', later')) :
    (∃ output output', outcome = .ok output ∧ outcome' = .ok output' ∧
      output.Reordered output') ∨
    ∃ failure failure', outcome = .error failure ∧ outcome' = .error failure' := by
  obtain ⟨result, hrun, rfl⟩ := h.consistent.run_of_check hcheck
  obtain ⟨result', hrun', rfl⟩ := hlater.consistent.run_of_check hcheck'
  have hmore := Validator.run_mono (Nat.le_max_left stages stages') hrun
  have hmore' := Validator.run_mono (Nat.le_max_right stages stages') hrun'
  have hignores := (Validator.ignoresOrder_compositional scenario.body).forgetful
    (max stages stages') _ hblind
  rcases result with fault | output
  · rcases result' with fault' | output'
    · exact .inr ⟨_, _, rfl, rfl⟩
    · exact absurd hmore (hignores.verdict (Json.reordered_symm hinput) hmore')
  · rcases result' with fault' | output'
    · exact absurd hmore' (hignores.verdict hinput hmore)
    · exact .inl ⟨output, output', rfl, rfl, hignores.outputs hinput hmore hmore'⟩

/-- Texts in nested dictionaries, by a definition that remembers itself. -/
def nestedTexts : Scenario :=
  ⟨fun _ => .firstOf [.string, .dictionary (.remembered "texts")], [.remembered "texts"]⟩

/-- The keys are in another order in the second input, in the inner object as well. The
second check is made with the memory that the first has left. -/
theorem check_nestedTexts_reordered :
    ∃ memory' later', nestedTexts.check 3 0 (some (.object [("a", .string "x"),
        ("b", .object [("c", .string "y"), ("d", .string "z")])])) nestedTexts.memory =
      some (.ok (.dictionary [("a", .json (.string "x")), ("b", .dictionary
        [("c", .json (.string "y")), ("d", .json (.string "z"))])]), memory') ∧
    nestedTexts.check 4 0 (some (.object [("b", .object [("d", .string "z"), ("c", .string "y")]),
        ("a", .string "x")])) memory' =
      some (.ok (.dictionary [("b", .dictionary [("d", .json (.string "z")),
        ("c", .json (.string "y"))]), ("a", .json (.string "x"))]), later') ∧
    Output.Reordered
      (.dictionary [("a", .json (.string "x")), ("b", .dictionary
        [("c", .json (.string "y")), ("d", .json (.string "z"))])])
      (.dictionary [("b", .dictionary [("d", .json (.string "z")), ("c", .json (.string "y"))]),
        ("a", .json (.string "x"))]) := by
  have hinner : Json.Reordered (.object [("c", .string "y"), ("d", .string "z")])
      (.object [("d", .string "z"), ("c", .string "y")]) := .of_perm (by decide) (.swap _ _ _)
  have hinput : Option.Rel Json.Reordered
      (some (.object [("a", .string "x"),
        ("b", .object [("c", .string "y"), ("d", .string "z")])]))
      (some (.object [("b", .object [("d", .string "z"), ("c", .string "y")]),
        ("a", .string "x")])) := by
    refine .some (.object (by decide) (.swap _ _ _) fun key value value' hvalue hvalue' => ?_)
    have hentry := Entries.mem_of_get? hvalue
    simp only [List.mem_cons, List.not_mem_nil, or_false] at hentry
    rcases hentry with heq | heq
    · cases heq
      obtain rfl : _ = value' := Option.some.inj hvalue'
      exact .string "x"
    · cases heq
      obtain rfl : _ = value' := Option.some.inj hvalue'
      exact hinner
  have hblind : (nestedTexts.live 0).validator.MadeOf nestedTexts.body Validator.OrderBlind := by
    refine Validator.madeOf_of_throughout (fun definition => ?_)
      (Validator.throughout_remembered.mpr trivial)
    show (nestedTexts.definitions definition).Throughout _
    simp [nestedTexts, Validator.OrderBlind]
  have hcheck : ∃ memory', nestedTexts.check 3 0 (some (.object [("a", .string "x"),
        ("b", .object [("c", .string "y"), ("d", .string "z")])])) nestedTexts.memory =
      some (.ok (.dictionary [("a", .json (.string "x")), ("b", .dictionary
        [("c", .json (.string "y")), ("d", .json (.string "z"))])]), memory') := ⟨_, rfl⟩
  obtain ⟨memory', hcheck⟩ := hcheck
  have hcheck' : ∃ later', nestedTexts.check 4 0 (some (.object [
        ("b", .object [("d", .string "z"), ("c", .string "y")]), ("a", .string "x")])) memory' =
      some (.ok (.dictionary [("b", .dictionary [("d", .json (.string "z")),
        ("c", .json (.string "y"))]), ("a", .json (.string "x"))]), later') := by
    cases hcheck
    exact ⟨_, rfl⟩
  obtain ⟨later', hcheck'⟩ := hcheck'
  refine ⟨memory', later', hcheck, hcheck', ?_⟩
  rcases check_ignores_key_order .start (.check .start hcheck) hinput hblind hcheck hcheck' with
    ⟨output, output', heq, heq', hreordered⟩ | ⟨failure, failure', heq, _⟩
  · cases heq
    cases heq'
    exact hreordered
  · cases heq

end Scenario

end JsonValidators
