import JsonValidators.Json

/-!
Locations inside a JSON value. A location is a list of steps from the root, each
into a field of an object or to an index of an array. It can be built from
either end, and its text is the texts of its steps in order.
-/

namespace JsonValidators

/-- One step of a location. -/
inductive Segment where
  | field (name : String)
  | index (position : Nat)
  deriving DecidableEq

/-- A field is written with its name as it stands. -/
def Segment.text : Segment → String
  | .field name => "." ++ name
  | .index position => "[" ++ toString position ++ "]"

/-- A location, read from the root inwards. -/
structure Path where
  segments : List Segment
  deriving DecidableEq

namespace Path

def root : Path := ⟨[]⟩

def ofList (segments : List Segment) : Path := ⟨segments⟩

def push (path : Path) (segment : Segment) : Path := ⟨path.segments ++ [segment]⟩

/-- The same location seen from one step further out. -/
def cons (segment : Segment) (path : Path) : Path := ⟨segment :: path.segments⟩

/-- A location seen from the place that the first path starts at. -/
def append (outer inner : Path) : Path := ⟨outer.segments ++ inner.segments⟩

instance : Append Path := ⟨append⟩

def length (path : Path) : Nat := path.segments.length

def isRoot (path : Path) : Bool := path.segments.isEmpty

def reverse (path : Path) : Path := ⟨path.segments.reverse⟩

def text (path : Path) : String := String.join (path.segments.map Segment.text)

/-- The name that the checked value goes by. -/
def rootName : String := "input"

/-- The text of a location together with the value that it is in. -/
def fullText (path : Path) : String := rootName ++ path.text

/-- The value that one step leads to. A step into a value of the wrong kind leads
nowhere, as does a missing key or an index past the end. -/
def step : Json → Segment → Option Json
  | .object entries, .field name => Entries.get? entries name
  | .array items, .index position => items[position]?
  | _, _ => none

def resolve (value : Json) (path : Path) : Option Json :=
  path.segments.foldl (fun found segment => found.bind (step · segment)) (some value)

@[simp] theorem segments_append (outer inner : Path) :
    (outer ++ inner).segments = outer.segments ++ inner.segments := rfl

@[simp] theorem segments_push (path : Path) (segment : Segment) :
    (path.push segment).segments = path.segments ++ [segment] := rfl

@[simp] theorem segments_cons (segment : Segment) (path : Path) :
    (cons segment path).segments = segment :: path.segments := rfl


@[simp] theorem root_append (path : Path) : root ++ path = path := rfl

@[simp] theorem append_root (path : Path) : path ++ root = path :=
  congrArg Path.mk (List.append_nil path.segments)

theorem append_assoc (outer middle inner : Path) :
    outer ++ middle ++ inner = outer ++ (middle ++ inner) :=
  congrArg Path.mk (List.append_assoc outer.segments middle.segments inner.segments)

@[simp] theorem length_root : root.length = 0 := rfl

@[simp] theorem length_ofList (segments : List Segment) :
    (ofList segments).length = segments.length := rfl

theorem toList_text (path : Path) :
    path.text.toList = path.segments.flatMap fun segment => segment.text.toList := by
  rw [text, String.toList_join, List.flatMap_map]

@[simp] theorem text_append (outer inner : Path) :
    (outer ++ inner).text = outer.text ++ inner.text := by
  apply String.toList_inj.mp
  rw [String.toList_append, toList_text, toList_text, toList_text, segments_append,
    List.flatMap_append]

@[simp] theorem resolve_root (value : Json) : resolve value root = some value := rfl

theorem resolve_append (value : Json) (outer inner : Path) :
    resolve value (outer ++ inner) = (resolve value outer).bind fun found => resolve found inner := by
  have hnowhere : ∀ segments : List Segment, segments.foldl
      (fun found segment => found.bind (step · segment)) (none : Option Json) = none := by
    intro segments
    induction segments with
    | nil => rfl
    | cons segment rest ih => exact ih
  unfold resolve
  rw [segments_append, List.foldl_append]
  cases outer.segments.foldl (fun found segment => found.bind (step · segment)) (some value) with
  | none => exact hnowhere inner.segments
  | some found => rfl

theorem resolve_cons (value : Json) (segment : Segment) (path : Path) :
    resolve value (cons segment path) =
      (step value segment).bind fun found => resolve found path :=
  resolve_append value (ofList [segment]) path

end Path

end JsonValidators
