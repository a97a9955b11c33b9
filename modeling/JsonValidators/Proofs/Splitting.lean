import JsonValidators.Proofs.Declarations
import JsonValidators.Proofs.Overwriting
import JsonValidators.Session

/-!
Declarations in parts. Where no two parts declare the same name, an intersection of the parts
makes the same runs in the same order as one record of all declarations, and what it merges is
in the order of the declarations already.
-/

namespace JsonValidators

namespace Entries

variable {α : Type}

theorem insert_append {first : Entries α} {key : String} (h : key ∉ keys first)
    (second : Entries α) (value : α) :
    insert (first ++ second) key value = first ++ insert second key value := by
  induction first with
  | nil => rfl
  | cons entry first ih =>
    obtain ⟨name, old⟩ := entry
    obtain ⟨hname, hfirst⟩ := not_or.mp (mt List.mem_cons.mpr h)
    rw [List.cons_append, insert, if_neg (Ne.symm hname), ih hfirst]
    rfl

/-- Entries under new keys come behind those that are there. -/
theorem merge_eq_append {first : Entries α} {pairs : List (String × α)}
    (h : ∀ key ∈ keys pairs, key ∉ keys first) : merge first pairs = first ++ ofList pairs := by
  -- From the end, since a pair may replace one of the new entries that are there by then.
  induction pairs using List.reverseRecOn with
  | nil => exact (List.append_nil first).symm
  | append_singleton pairs pair ih =>
    have hkeys : keys (pairs ++ [pair]) = keys pairs ++ [pair.1] := List.map_append
    rw [hkeys] at h
    have hpairs := ih fun key hkey => h key (List.mem_append_left _ hkey)
    have hpair := h pair.1 (List.mem_append_right _ List.mem_cons_self)
    rw [ofList_concat, merge_append, hpairs, ← insert_append hpair]
    rfl

theorem ofList_append {first second : List (String × α)}
    (h : ∀ key ∈ keys second, key ∉ keys first) :
    ofList (first ++ second) = ofList first ++ ofList second := by
  rw [ofList, merge_append]
  exact merge_eq_append fun key hkey hfirst => h key hkey (mem_keys_ofList.mp hfirst)

theorem ofList_of_nodup {pairs : List (String × α)} (h : (keys pairs).Nodup) :
    ofList pairs = pairs := by
  induction pairs with
  | nil => rfl
  | cons pair pairs ih =>
    obtain ⟨hpair, hpairs⟩ := List.nodup_cons.mp h
    have hfirst : ofList [pair] = [pair] := rfl
    rw [← List.singleton_append, ofList_append, hfirst, ih hpairs]
    rintro key hkey hmem
    obtain rfl := List.mem_singleton.mp hmem
    exact hpair hkey

end Entries

namespace Run

variable {σ α β : Type}

theorem mapValue_eq_ok_iff {run : Run σ α} {change : α → β} {state last : σ} {value : β} :
    run.mapValue change state = some (.ok value, last) ↔
      ∃ inner, run state = some (.ok inner, last) ∧ change inner = value := by
  unfold mapValue settle
  rcases run state with - | ⟨fault | inner, next⟩ <;> simp [ofOutcome, Outcome.map, and_comm]

theorem bind_eq_ok_iff {run : Run σ α} {next : α → Run σ β} {state last : σ} {value : β} :
    run.bind next state = some (.ok value, last) ↔
      ∃ middle between, run state = some (.ok middle, between) ∧
        next middle between = some (.ok value, last) := by
  unfold bind settle
  rcases run state with - | ⟨fault | middle, between⟩ <;> simp [ofFault, ofOutcome]

end Run

namespace Check

variable {σ : Type}

open Run

/-- Fields in two rows are looked at one row after the other. -/
theorem fields_append (object : Entries Json) (first second : List (String × Check σ)) :
    fields object (first ++ second) = (fields object first).bind fun entries =>
      (fields object second).mapValue (entries ++ ·) := by
  induction first with
  | nil =>
    funext state
    exact (congrFun (mapValue_eq_self fun _ _ _ _ => rfl) state).symm
  | cons field first ih =>
    rw [List.cons_append, fields, fields, ih, bind_bind]
    refine congrArg _ (funext fun output => ?_)
    rw [mapValue_bind, bind_mapValue]
    refine congrArg _ (funext fun entries => ?_)
    rw [mapValue_mapValue]
    refine congrArg (mapValue · _) (funext fun others => ?_)
    cases output.toJson? <;> rfl

/-- Keys are left out, but they are not moved or made up. -/
theorem keys_of_fields {object : Entries Json} {declared : List (String × Check σ)}
    {entries : Entries Json} {state last : σ}
    (h : fields object declared state = some (.ok entries, last)) :
    (Entries.keys entries).Sublist (Entries.keys declared) := by
  induction declared generalizing state entries with
  | nil =>
    cases h
    exact List.Sublist.refl _
  | cons field declared ih =>
    obtain ⟨output, between, _, hrest⟩ := bind_eq_ok_iff.mp h
    obtain ⟨others, hothers, hentries⟩ := mapValue_eq_ok_iff.mp hrest
    cases hvalue : output.toJson? with
    | some value =>
      rw [hvalue] at hentries
      exact hentries ▸ (ih hothers).cons_cons field.1
    | none =>
      rw [hvalue] at hentries
      exact hentries ▸ (ih hothers).cons field.1

/-- Records of one object, merged into some entries, are one row of fields. -/
theorem parts_records (object merged : Entries Json) (blocks : List (Entries (Check σ))) :
    parts (some (.object object)) merged (blocks.map record) =
      (fields object blocks.flatten).mapValue (Entries.merge merged) := by
  induction blocks generalizing merged with
  | nil => rfl
  | cons block blocks ih =>
    rw [List.map_cons, parts, record, bind_mapValue, List.flatten_cons, fields_append,
      mapValue_bind]
    refine congrArg _ (funext fun entries => ?_)
    rw [ih, mapValue_mapValue]
    refine congrArg (mapValue · _) (funext fun others => ?_)
    exact (Entries.merge_append merged entries others).symm

theorem intersection_records {blocks : List (Entries (Check σ))} (hblocks : blocks ≠ [])
    (hnodup : (Entries.keys blocks.flatten).Nodup) :
    intersection (blocks.map record) = record blocks.flatten := by
  funext input
  by_cases hkind : Kind.of input = .object
  · obtain ⟨object, rfl⟩ := Kind.exists_object hkind
    -- The merge of all entries changes nothing, as no key comes twice.
    rw [intersection, parts_records, mapValue_eq_self, record]
    intro state entries last h
    exact Entries.ofList_of_nodup (hnodup.sublist (keys_of_fields h))
  · cases blocks with
    | nil => exact absurd rfl hblocks
    | cons block blocks =>
      rw [record_of_kind hkind, List.map_cons, intersection, parts, record_of_kind hkind]
      rfl

end Check

namespace Validator

variable {σ : Type} (make : Construction σ)

theorem interpretFields_append (first second : Fields) (base : Nat) :
    interpretFields make (first ++ second) base =
      interpretFields make first base ++
        interpretFields make second (base + fieldCells first) := by
  induction first generalizing base with
  | nil => rfl
  | cons field first ih =>
    rw [List.cons_append, interpretFields, ih, interpretFields, fieldCells, Nat.add_assoc]
    rfl

/-- The records of parts that declare no name in common make up the record of all declarations,
and their memo cells are the same. -/
theorem exists_blocks {parts : List Fields}
    (hdisjoint : parts.Pairwise fun fields later => ∀ name ∈ later.names, name ∉ fields.names)
    (base : Nat) :
    ∃ blocks : List (Entries (Check σ)),
      interpretList make (parts.map record) base = blocks.map Check.record ∧
        blocks.flatten = Entries.ofList (interpretFields make parts.flatten base) := by
  induction parts generalizing base with
  | nil => exact ⟨[], rfl, rfl⟩
  | cons fields parts ih =>
    obtain ⟨hfirst, hrest⟩ := List.pairwise_cons.mp hdisjoint
    -- The memo cells of the next part begin where those of this one end, in one record as well.
    obtain ⟨blocks, hblocks, hflatten⟩ := ih hrest (base + fieldCells fields)
    refine ⟨Entries.ofList (interpretFields make fields base) :: blocks, ?_, ?_⟩
    · rw [List.map_cons, interpretList, cells, hblocks, interpret, List.map_cons]
    · rw [List.flatten_cons, hflatten, List.flatten_cons, interpretFields_append,
        Entries.ofList_append]
      intro name hlater hname
      rw [keys_interpretFields] at hlater hname
      obtain ⟨entry, hentry, rfl⟩ := List.mem_map.mp hlater
      obtain ⟨others, hothers, hmem⟩ := List.mem_flatten.mp hentry
      exact hfirst others hothers entry.1 (List.mem_map_of_mem hmem) hname

/-- An intersection of the parts and one record of all declarations are the same check. -/
theorem interpret_split {parts : List Fields} (hparts : parts ≠ [])
    (hdisjoint : parts.Pairwise fun fields later => ∀ name ∈ later.names, name ∉ fields.names)
    (base : Nat) :
    interpret make (intersection (parts.map record)) base =
      interpret make (record parts.flatten) base := by
  obtain ⟨blocks, hblocks, hflatten⟩ := exists_blocks make hdisjoint base
  have hne : blocks ≠ [] := by
    rintro rfl
    cases parts with
    | nil => exact hparts rfl
    | cons fields parts => cases hblocks
  have hnodup : (Entries.keys blocks.flatten).Nodup := by
    rw [hflatten]
    exact Entries.nodup_keys_ofList _
  rw [interpret, interpret, hblocks, Check.intersection_records hne hnodup, hflatten]

end Validator

namespace Scenario

/-- Declarations may be split over the parts of an intersection, if there is a part and no two
parts declare the same name. Whatever has been checked before, the parts say what one record of
all declarations says: the same output with its keys in the same order, or the same failure. In
the same memory cells they also leave the same behind. -/
theorem answers_of_split {scenario : Scenario} {memory later : Memory}
    (h : scenario.Reached memory) (hlater : scenario.Reached later) {parts : List Fields}
    (hparts : parts ≠ [])
    (hdisjoint : parts.Pairwise fun fields others => ∀ name ∈ fields.names, name ∉ others.names)
    {split whole : Nat}
    (hsplit : (scenario.live split).validator = .intersection (parts.map .record))
    (hwhole : (scenario.live whole).validator = .record parts.flatten) :
    (∀ stages input, scenario.answer? stages split input memory =
      scenario.answer? stages whole input later) ∧
    ∀ library base input memory,
      (Live.mk (.intersection (parts.map .record)) base).check library input memory =
        (Live.mk (.record parts.flatten) base).check library input memory := by
  have hothers : parts.Pairwise fun fields others =>
      ∀ name ∈ others.names, name ∉ fields.names :=
    hdisjoint.imp fun hnames name hother hname => hnames name hname hother
  constructor
  · intro stages input
    rw [h.answer?_eq, hlater.answer?_eq, hsplit, hwhole, Validator.outcome?, Validator.outcome?,
      Validator.interpret_split _ hparts hothers]
  · intro library base input memory
    rw [Live.check, Live.check, Live.interpret, Live.interpret,
      Validator.interpret_split _ hparts hothers]

/-- Declarations in two parts, the second with a field that is declared again. -/
def divisions : List Fields :=
  [[("b", .boolean)], [("a", .string), ("c", .boolean), ("a", .optional .string)]]

/-- The parts together, and one record of all their declarations. -/
def divided : Scenario :=
  ⟨fun _ => .never "not defined",
    [.intersection (divisions.map .record), .record divisions.flatten]⟩

/-- The parts leave out what one record leaves out, keep its order, and miss what it misses. -/
theorem divided_answers :
    divided.answer? 0 0 (some (.object [("c", .bool true), ("b", .bool false)])) divided.memory =
      some (.ok (.json (.object [("b", .bool false), ("c", .bool true)]))) ∧
    divided.answer? 0 0 (some (.object [("a", .string "s"), ("b", .bool true)])) divided.memory =
      some (.error (.located (some (.object [("a", .string "s"), ("b", .bool true)])) Path.root
        "the key 'c' is required but was not present")) := by
  have hstart : divided.Reached divided.memory := .start
  have hdisjoint : divisions.Pairwise fun fields others =>
      ∀ name ∈ fields.names, name ∉ others.names := by decide
  have hsplit : (divided.live 0).validator = .intersection (divisions.map .record) := rfl
  have hwhole : (divided.live 1).validator = .record divisions.flatten := rfl
  have hanswers := (answers_of_split hstart hstart (List.cons_ne_nil _ _) hdisjoint hsplit hwhole).1 0
  exact ⟨(hanswers _).trans rfl, (hanswers _).trans rfl⟩

end Scenario

end JsonValidators
