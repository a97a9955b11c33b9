import JsonValidators.Proofs.DistinctKeys
import JsonValidators.Proofs.Origins
import JsonValidators.Proofs.Scenario

/-!
Where failures are located. The path of a failure leads to a value of the input, unless
a validator that follows a path is to blame. Such a validator points at most one step
past the deepest value on its path, or two steps to say that the path does not exist.
-/

namespace JsonValidators

/-- What a path leads to in an input that may be missing. A missing input has a root
only. -/
inductive Path.Leads : Option Json → Path → Option Json → Prop
  | absent : Leads none Path.root none
  | present {value found : Json} {path : Path} : path.resolve value = some found →
      Leads (some value) path (some found)

theorem Path.leads_root (input : Option Json) : Leads input Path.root input := by
  cases input with
  | none => exact .absent
  | some value => exact .present (resolve_root value)

theorem Path.Leads.append {input between found : Option Json} {outer inner : Path}
    (houter : Leads input outer between) (hinner : Leads between inner found) :
    Leads input (outer ++ inner) found := by
  cases houter with
  | absent =>
    cases hinner
    exact .absent
  | present hbetween =>
    cases hinner with
    | present hfound =>
      apply present
      rw [resolve_append, hbetween]
      exact hfound

theorem Path.Leads.isSome {value : Json} {found : Option Json} {path : Path}
    (h : Leads (some value) path found) : (path.resolve value).isSome := by
  cases h with
  | present hfound => exact Option.isSome_of_eq_some hfound

theorem Path.Leads.eq_root {found : Option Json} {path : Path} (h : Leads none path found) :
    path = root ∧ found = none := by
  cases h
  exact ⟨rfl, rfl⟩

section KeysDistinct

open Json

theorem Path.step_keysDistinct {value found : Json} {segment : Segment}
    (hvalue : value.KeysDistinct) (h : step value segment = some found) : found.KeysDistinct := by
  cases hvalue with
  | object _ hvalues =>
    cases segment with
    | field name => exact hvalues _ (Entries.mem_of_get? h)
    | index position => cases h
  | array hitems =>
    cases segment with
    | field name => cases h
    | index position => exact hitems _ (List.mem_of_getElem? h)
  | null | bool | number | string => cases h

theorem Path.resolve_keysDistinct {value found : Json} {path : Path}
    (hvalue : value.KeysDistinct) (h : resolve value path = some found) : found.KeysDistinct := by
  obtain ⟨segments⟩ := path
  induction segments generalizing value with
  | nil =>
    cases h
    exact hvalue
  | cons segment rest ih =>
    have hcons := resolve_cons value segment ⟨rest⟩
    obtain ⟨next, hnext, hrest⟩ := Option.bind_eq_some_iff.mp (hcons.symm.trans h)
    exact ih (step_keysDistinct hvalue hnext) hrest

theorem Path.Leads.keysDistinct {input found : Option Json} {path : Path}
    (h : Leads input path found) (hinput : ∀ value ∈ input, value.KeysDistinct) :
    ∀ value ∈ found, value.KeysDistinct := by
  cases h with
  | absent => exact hinput
  | present hfound =>
    rintro value ⟨⟩
    exact resolve_keysDistinct (hinput _ rfl) hfound

end KeysDistinct

section Walks

namespace Check

/-- A walk that does not end early ends where the path leads. -/
theorem resolve_of_walk {walked : Path} {segments : List Segment} {value : Json}
    {found : Option Json} (h : walk walked segments (some value) = .ok found) :
    Path.resolve value ⟨segments⟩ = found := by
  induction segments generalizing walked value with
  | nil =>
    cases h
    rfl
  | cons segment rest ih =>
    rw [walk_cons] at h
    split at h
    · have hcons := Path.resolve_cons value segment ⟨rest⟩
      rw [show (⟨segment :: rest⟩ : Path) = Path.cons segment ⟨rest⟩ from rfl, hcons]
      cases hstep : Path.step value segment with
      | some next =>
        rw [hstep] at h
        exact ih h
      | none =>
        rw [hstep] at h
        cases rest with
        | nil =>
          cases h
          rfl
        | cons segment' rest => cases h
    · cases h

/-- All steps but the last lead somewhere. -/
theorem resolve_init_of_walk {walked : Path} {segments : List Segment} {value : Json}
    (h : walk walked segments (some value) = .ok none) :
    ∃ init last found, segments = init ++ [last] ∧ Path.resolve value ⟨init⟩ = some found := by
  induction segments generalizing walked value with
  | nil => cases h
  | cons segment rest ih =>
    cases rest with
    | nil => exact ⟨[], segment, value, rfl, rfl⟩
    | cons segment' rest =>
      rw [walk_cons] at h
      split at h
      · cases hstep : Path.step value segment with
        | none =>
          rw [hstep] at h
          cases h
        | some next =>
          rw [hstep] at h
          obtain ⟨init, last, found, hsplit, hfound⟩ := ih h
          refine ⟨segment :: init, last, found, congrArg (List.cons segment) hsplit, ?_⟩
          have hcons := Path.resolve_cons value segment ⟨init⟩
          rw [hstep] at hcons
          exact hcons.trans hfound
      · cases h

end Check

/-- The path of a fault leads to a value up to its last steps: up to the last one, or the
last two if it is said that the path leads nowhere. Without an input there is one step
at most. -/
inductive Fault.Near : Option Json → Fault → Prop
  | absent {fault : Fault} : fault.path.length ≤ 1 → Near none fault
  | present {value found : Json} {fault : Fault} {outer rest : Path} :
      fault.path = outer ++ rest → outer.resolve value = some found → rest.length ≤ 2 →
        (rest.length = 2 → fault.reason = .nowhere) → Near (some value) fault

/-- A fault right behind the place that is looked at. -/
theorem Fault.near_of_length {input : Option Json} {fault : Fault} (h : fault.path.length ≤ 1) :
    Near input fault := by
  cases input with
  | none => exact .absent h
  | some value =>
    exact .present (Path.root_append _).symm (Path.resolve_root value) (by omega) (by omega)

/-- What is near a value that a path leads to is near the input behind the path. -/
theorem Path.Leads.near {input found : Option Json} {path : Path} {fault : Fault}
    (hleads : Leads input path found) (h : Fault.Near found fault) :
    Fault.Near input (fault.underPath path) := by
  cases hleads with
  | absent => exact h
  | @present value found path hpath =>
    cases h with
    | @present _ found' _ outer rest heq houter hlength hreason =>
      have hresolve : (path ++ outer).resolve value = some found' := by
        rw [resolve_append, hpath]
        exact houter
      refine .present ?_ hresolve hlength hreason
      rw [Fault.underPath, heq, append_assoc]

/-- A walk that ends early ends near the deepest value on its way. -/
theorem Check.near_of_walk {walked : Path} {segments : List Segment} {value : Json} {fault : Fault}
    (h : walk walked segments (some value) = .error fault) :
    ∃ inner, Fault.Near (some value) inner ∧ inner.underPath walked = fault := by
  induction segments generalizing walked value with
  | nil => cases h
  | cons segment rest ih =>
    rw [walk_cons] at h
    split at h
    · cases hstep : Path.step value segment with
      | some next =>
        rw [hstep] at h
        obtain ⟨inner, hnear, rfl⟩ := ih h
        have hleads : Path.Leads (some value) (Path.ofList [segment]) (some next) := .present hstep
        exact ⟨_, hleads.near hnear, Fault.underPath_underPath walked (Path.ofList [segment]) inner⟩
      | none =>
        rw [hstep] at h
        cases rest with
        | nil => cases h
        | cons segment' rest =>
          cases h
          refine ⟨⟨Path.ofList [segment, segment'], .nowhere⟩,
            .present (Path.root_append _).symm (Path.resolve_root value) (Nat.le_refl 2)
              fun _ => rfl, ?_⟩
          exact congrArg (Fault.mk · _)
            (Path.append_assoc walked (Path.ofList [segment]) (Path.ofList [segment'])).symm
    · cases h
      exact ⟨⟨Path.ofList [segment], wrongKind segment.container (some value)⟩,
        Fault.near_of_length (Nat.le_refl 1), rfl⟩

end Walks

namespace Validator

variable {body : String → Validator} {validator part : Validator} {input found : Option Json}
  {path : Path} {fault : Fault}

theorem PassesOn.leads (h : PassesOn body validator input path part found)
    (hinput : ∀ value ∈ input, value.KeysDistinct) : path.Leads input found := by
  cases h with
  | field _ _ hproperty => exact .present hproperty
  | property hentry =>
    cases hinput _ rfl with
    | object hnodup _ => exact .present (Entries.get?_of_mem hnodup hentry)
  | item hvalue => exact .present hvalue
  | place _ hvalue => exact .present hvalue
  | found hwalk =>
    cases input with
    | some value => exact .present (Check.resolve_of_walk hwalk)
    | none =>
      -- Without an input a walk leads to nothing, if it leads anywhere.
      cases hsegments : path.segments with
      | nil =>
        rw [hsegments] at hwalk
        cases hwalk
      | cons segment rest =>
        rw [hsegments] at hwalk
        cases hwalk
  | present | conjunct | changed | restricted | selector | case | otherwise | continued |
    continuation | rebuilt | remembered | inUse => exact Path.leads_root _

theorem Reaches.leads (h : Reaches body validator input path part found)
    (hinput : ∀ value ∈ input, value.KeysDistinct) : path.Leads input found := by
  induction h with
  | here => exact Path.leads_root _
  | next hpasses _ ih =>
    have hstep := hpasses.leads hinput
    exact hstep.append (ih (hstep.keysDistinct hinput))

/-- A validator that looks at its input itself, and at no place that a path leads to. -/
def FollowsNoPath : Validator → Prop
  | follow _ _ => False
  | _ => True

theorem Complaint.path_eq_root (h : Complaint body validator input fault)
    (hpath : validator.FollowsNoPath) : fault.path = Path.root := by
  cases h with
  | strayed | nowhere => exact hpath.elim
  | _ => rfl

/-- Validators that follow a path find fault near it, all others right where they look. -/
theorem Complaint.near (h : Complaint body validator input fault) : fault.Near input := by
  cases h with
  | @strayed path _ _ _ hwalk =>
    cases input with
    | some value =>
      obtain ⟨inner, hnear, rfl⟩ := Check.near_of_walk hwalk
      exact hnear
    | none =>
      cases hsegments : path.segments with
      | nil =>
        rw [hsegments] at hwalk
        cases hwalk
      | cons segment rest =>
        rw [hsegments] at hwalk
        cases hwalk
        exact Fault.near_of_length (Nat.le_refl 1)
  | @nowhere path _ _ hwalk =>
    cases input with
    | some value =>
      obtain ⟨init, last, found, hsplit, hfound⟩ := Check.resolve_init_of_walk hwalk
      exact .present (congrArg Path.mk hsplit) hfound (Nat.le_succ 1) (fun _ => rfl)
    | none =>
      cases hsegments : path.segments with
      | nil =>
        have hroot : path = Path.root := congrArg Path.mk hsegments
        rw [hroot]
        exact Fault.near_of_length (Nat.zero_le 1)
      | cons segment rest =>
        rw [hsegments] at hwalk
        cases hwalk
  | _ => exact Fault.near_of_length (Nat.zero_le 1)

theorem Reaches.unfolds (h : Reaches body validator input path part found) :
    Unfolds body validator part := by
  have hstep : ∀ {whole part : Validator} {input found : Option Json} {path : Path},
      PassesOn body whole input path part found → Unfolds body whole part := by
    intro whole part input found path h
    cases h with
    | @field _ declarations _ entry _ hdeclarations hentry _ =>
      have hmem := Entries.mem_ofList hentry
      cases whole with
      | record _ =>
        cases hdeclarations
        exact .part .refl (.field hmem)
      | closedRecord _ =>
        cases hdeclarations
        exact .part .refl (.closedField hmem)
      | _ => cases hdeclarations
    | property => exact .part .refl .value
    | item => exact .part .refl .element
    | place helement => exact .part .refl (.position (List.mem_of_getElem? helement))
    | found => exact .part .refl .found
    | present => exact .part .refl .present
    | conjunct hpart => exact .part .refl (.conjunct hpart)
    | changed => exact .part .refl .changed
    | restricted => exact .part .refl .restricted
    | selector => exact .part .refl .selector
    | case hentry => exact .part .refl (.case hentry)
    | otherwise => exact .part .refl .otherwise
    | continued => exact .part .refl .continued
    | continuation output => exact .part .refl (.continuation output)
    | rebuilt => exact .rebuilt .refl
    | remembered => exact .remembered .refl
    | inUse => exact .part .refl .inUse
  induction h with
  | here => exact .refl
  | next hpasses _ ih => exact (hstep hpasses).trans ih

theorem Blamed.near (h : Blamed body validator input fault)
    (hinput : ∀ value ∈ input, value.KeysDistinct) : fault.Near input := by
  obtain ⟨path, part, found, own, hreaches, hcomplaint, rfl⟩ := h
  exact (hreaches.leads hinput).near hcomplaint.near

/-- Where no path is followed, the path of a fault leads to what a part looks at. -/
theorem Blamed.leads (h : Blamed body validator input fault)
    (hinput : ∀ value ∈ input, value.KeysDistinct)
    (hpath : validator.MadeOf body FollowsNoPath) : ∃ found, fault.path.Leads input found := by
  obtain ⟨path, part, found, own, hreaches, hcomplaint, rfl⟩ := h
  have hroot := hcomplaint.path_eq_root (hpath part hreaches.unfolds)
  refine ⟨found, ?_⟩
  rw [Fault.underPath, hroot, Path.append_root]
  exact hreaches.leads hinput

end Validator

namespace Scenario

/-- Whatever has been checked before, the path of a failure leads to a value of the
input, or is the root if there is no input, where no path is followed. Where one is, the
path leads to a value up to its last steps: two at most, and not more than one unless it
is said that the path does not exist. -/
theorem check_failure_located {scenario : Scenario} {memory memory' : Memory}
    (h : scenario.Reached memory) {stages number : Nat} {input : Option Json}
    (hinput : ∀ value ∈ input, value.KeysDistinct) {failure : Failure}
    (hcheck : scenario.check stages number input memory = some (.error failure, memory')) :
    ((scenario.live number).validator.MadeOf scenario.body Validator.FollowsNoPath →
      (∀ value ∈ input, (failure.path.resolve value).isSome) ∧
        (input = none → failure.path = Path.root)) ∧
      (∀ value ∈ input, ∃ outer rest : Path, failure.path = outer ++ rest ∧
        (outer.resolve value).isSome ∧ rest.length ≤ 2 ∧
          (rest.length = 2 → failure.message = "path does not exist")) ∧
      (input = none → failure.path.length ≤ 1) := by
  obtain ⟨fault, hfails, rfl⟩ := h.consistent.fails_of_check hcheck
  have hblamed := Validator.blamed_of_fails hfails
  have hnear := hblamed.near hinput
  refine ⟨fun hpath => ?_, ?_, ?_⟩
  · obtain ⟨found, hleads⟩ := hblamed.leads hinput hpath
    constructor
    · rintro value rfl
      exact hleads.isSome
    · rintro rfl
      exact hleads.eq_root.1
  · rintro value rfl
    cases hnear with
    | present hpath houter hlength hreason =>
      refine ⟨_, _, hpath, Option.isSome_of_eq_some houter, hlength, fun htwo => ?_⟩
      exact congrArg Reason.message (hreason htwo)
  · rintro rfl
    cases hnear with
    | absent hlength => exact hlength

/-- Objects in a list, of which a value two keys deep is looked at. -/
def nested : Scenario :=
  ⟨fun _ => .never "not defined",
    [.list (.follow (Path.ofList [.field "a", .field "b"]) .string)]⟩

/-- The failure points two steps past the object that lacks the first of the keys. -/
theorem check_nested_located :
    ∃ failure memory', nested.check 0 0 (some (.array [.object []])) nested.memory =
        some (.error failure, memory') ∧
      failure.path = Path.ofList [.index 0, .field "a", .field "b"] ∧
      ∃ outer rest : Path, failure.path = outer ++ rest ∧
        (outer.resolve (.array [.object []])).isSome ∧ rest.length ≤ 2 ∧
          (rest.length = 2 → failure.message = "path does not exist") := by
  have hinput : ∀ value ∈ some (Json.array [.object []]), value.KeysDistinct := by decide
  have hcheck : ∃ failure memory', nested.check 0 0 (some (.array [.object []])) nested.memory =
      some (.error failure, memory') ∧
        failure.path = Path.ofList [.index 0, .field "a", .field "b"] := ⟨_, _, rfl, rfl⟩
  obtain ⟨failure, memory', hcheck, hpath⟩ := hcheck
  exact ⟨failure, memory', hcheck, hpath,
    (check_failure_located .start hinput hcheck).2.1 _ rfl⟩

end Scenario

end JsonValidators
