import Conform.Compile.Options
import Conform.Compile.Required
import Conform.Schema.Size
import Conform.Warning

/-!
# Compiling schemas

A schema is compiled without recursion on its depth. Maps of properties wait on a stack, each with
the path of its object and the slot that its compiled fields go into; a turn takes the last one and
compiles its fields, which may put further maps on the stack. Before a map is put there, blacklisted
names are taken out of it and its required names are added to a set of paths.

A field becomes the validator given for its name if there is one; an object, if it has `allOf` or
is an object with properties; a list, if it is a list with a schema for its items; and a leaf
otherwise.

* `Build.pending_fields_le`: compiling fields adds no more to the waiting schemas than the fields
  hold, so every turn leaves fewer waiting maps and schemas than before.
-/

set_option autoImplicit false

namespace Conform

/-- A compiled node. The fields of an object are filled in when its map is taken from the stack. -/
inductive Slot
  | leaf (v : Validator)
  | object (fields : List (String × Nat)) (required : Bool)
  | array (element : Nat) (required : Bool) (least most : Option Nat)

/-- A map of properties that waits to be compiled into an object slot. -/
structure Pending where
  path : Path
  slot : Nat
  fields : List (String × Schema)

/-- The state of a compilation. -/
structure Build where
  required : RequiredSet
  nodes : Array Slot
  stack : List Pending
  warnings : Array Warning

namespace Build

/-- Nothing is compiled yet. -/
def empty : Build := ⟨.empty, #[], [], #[]⟩

/-! ## Steps -/

/-- A new slot at the end. -/
def alloc (b : Build) (s : Slot) : Nat × Build := (b.nodes.size, { b with nodes := b.nodes.push s })

/-- One more warning. -/
def warn (b : Build) (path : Path) (kind : WarningKind) : Build :=
  { b with warnings := b.warnings.push ⟨path, kind⟩ }

/-- Warnings at one path. -/
def warnAll (b : Build) (path : Path) (kinds : List WarningKind) : Build :=
  kinds.foldl (fun b k => b.warn path k) b

/-- The path is one of a required field. -/
def requires (b : Build) (path : Path) : Bool := b.required.contains path

/-- The slot of an array gets its element. -/
def setElement (b : Build) (slot element : Nat) : Build :=
  { b with nodes := b.nodes.modify slot fun
    | .array _ required least most => .array element required least most
    | s => s }

/-- The slot of an object gets its fields. -/
def setFields (b : Build) (slot : Nat) (fields : List (String × Nat)) : Build :=
  { b with nodes := b.nodes.modify slot fun
    | .object _ required => .object fields required
    | s => s }

end Build

/-- The types that are known even where no scalar is registered for them. -/
def standardTypes : List String :=
  ["string", "number", "integer", "boolean", "null", "object", "array"]

namespace Options

/-- The scalar that a leaf starts from. -/
def leafBase (o : Options) (s : Schema) : Scalar :=
  match s.typeName? with
  | some name => (o.types.lookup name).getD .permissive
  | none => .permissive

/-- What there is to say about the type of a leaf. -/
def leafWarnings (o : Options) (s : Schema) : List WarningKind :=
  match s.typeName? with
  | some name =>
    if (o.types.lookup name).isSome || standardTypes.contains name then [] else [.unknownType name]
  | none => []

/-- The scalar of a leaf: permitted values first, then the bounds, and whether it is required. -/
def leafScalar (o : Options) (s : Schema) (required : Bool) : Scalar :=
  let v := o.leafBase s
  let v := s.facets.enum.elim v v.among
  let v := s.lower?.elim v v.atLeast
  let v := s.upper?.elim v v.atMost
  if required then v.require else v

end Options

namespace Build

variable (o : Options)

/-- Puts the properties at a path on the stack, with a new slot for the object. The blacklist is
applied and the required names are resolved before anything below is compiled. -/
def schedule (path : Path) (properties : Option (List (String × Schema)))
    (names : Option (List String)) (required : Bool) (b : Build) : Nat × Build :=
  let fields := prune o.blackList (properties.getD [])
  let found := resolve path (KeyMap.keys fields) (names.getD [])
  let missing := found.unresolved.filter fun name => !o.blackList.contains name
  let b := { b with required := b.required.insertAll found.resolved }
  let b := b.warnAll path (missing.map .unresolvedRequired)
  let (slot, b) := b.alloc (.object [] required)
  (slot, { b with stack := ⟨path, slot, fields⟩ :: b.stack })

/-- A leaf at a path. -/
def leaf (path : Path) (s : Schema) (b : Build) : Nat × Build :=
  let b := b.warnAll path (o.leafWarnings s)
  b.alloc (.leaf (.scalar (o.leafScalar s (b.requires path))))

/-- A schema without `allOf`, or whose `allOf` does not count: a list, an object or a leaf. The slot
of a list is there before the one of its element. -/
def typed (path : Path) (s : Schema) (b : Build) : Nat × Build :=
  if s.typeName? = some "array" then
    match _h : s.items with
    | some i =>
      let n := i.normalize
      let list := b.alloc (.array 0 (b.requires path) s.facets.minItems s.facets.maxItems)
      let element :=
        if n.properties.isSome || n.typeName? = some "object" then
          schedule o path.items n.properties n.facets.required false list.2
        else typed path.items n list.2
      (list.1, element.2.setElement list.1 element.1)
    | none => leaf o path s (b.warn path .arrayWithoutItems)
  else if s.typeName? = some "object" then
    match s.properties with
    | some ps => schedule o path (some ps) s.facets.required (b.requires path) b
    | none => leaf o path s (b.warn path .objectWithoutProperties)
  else leaf o path s b
termination_by s.size
decreasing_by
  exact Nat.lt_of_le_of_lt (Schema.size_normalize_le i) (Schema.size_lt_of_items _h)

/-- A field of an object. -/
def field (path : Path) (name : String) (s : Schema) (b : Build) : Nat × Build :=
  match o.custom.lookup name with
  | some v => b.alloc (.leaf v)
  | none =>
    if s.allOf.isSome then
      let n := s.normalize
      schedule o path n.properties n.facets.required (b.requires path) b
    else typed o path s b

/-- The fields of an object, in the order of their names. -/
def fields (path : Path) : List (String × Schema) → Build → List (String × Nat) × Build
  | [], b => ([], b)
  | (name, s) :: ps, b =>
    let (slot, b) := field o (path.child name) name s b
    let (slots, b) := fields path ps b
    ((name, slot) :: slots, b)

/-- Compiles a waiting map. -/
def expand (p : Pending) (b : Build) : Build :=
  let (slots, b) := fields o p.path p.fields b
  b.setFields p.slot slots

/-! ## Running -/

/-- The waiting maps and the schemas they hold. -/
def pending : List Pending → Nat
  | [] => 0
  | p :: ps => 1 + Schema.sizeNamed p.fields + pending ps

@[simp] theorem stack_warn (b : Build) (path : Path) (k : WarningKind) :
    (b.warn path k).stack = b.stack := rfl

@[simp] theorem stack_warnAll (b : Build) (path : Path) (ks : List WarningKind) :
    (b.warnAll path ks).stack = b.stack := by
  induction ks generalizing b with
  | nil => rfl
  | cons k ks ih => exact ih (b.warn path k)

@[simp] theorem stack_setElement (b : Build) (slot element : Nat) :
    (b.setElement slot element).stack = b.stack := rfl

@[simp] theorem stack_setFields (b : Build) (slot : Nat) (fs : List (String × Nat)) :
    (b.setFields slot fs).stack = b.stack := rfl

@[simp] theorem stack_alloc (b : Build) (s : Slot) : (b.alloc s).2.stack = b.stack := rfl

@[simp] theorem stack_leaf (path : Path) (s : Schema) (b : Build) :
    (leaf o path s b).2.stack = b.stack := by simp [leaf]

theorem stack_schedule (path : Path) (ps : Option (List (String × Schema)))
    (names : Option (List String)) (required : Bool) (b : Build) :
    (schedule o path ps names required b).2.stack =
      ⟨path, (schedule o path ps names required b).1, prune o.blackList (ps.getD [])⟩ ::
        b.stack := by
  simp [schedule, alloc]

/-- Putting a map on the stack adds no more than a schema that is larger than the map. -/
theorem pending_schedule_le (path : Path) (ps : Option (List (String × Schema)))
    (names : Option (List String)) (required : Bool) (b : Build) {n : Nat}
    (h : Schema.sizeProperties ps < n) :
    pending (schedule o path ps names required b).2.stack ≤ pending b.stack + n := by
  rw [stack_schedule]
  have h' := Schema.sizeNamed_prune_le o.blackList (ps.getD [])
  cases ps <;>
    simp only [pending, Schema.sizeProperties, Option.getD, Schema.sizeNamed] at h h' ⊢ <;> omega

theorem pending_typed_le (path : Path) (s : Schema) (b : Build) :
    pending (typed o path s b).2.stack ≤ pending b.stack + s.size := by
  fun_induction typed o path s b with
  | case1 path s b _ i hi n list element ih =>
    have hn : n.size ≤ i.size := Schema.size_normalize_le i
    have hs := Schema.size_lt_of_items hi
    have he : pending element.2.stack ≤ pending b.stack + n.size := by
      simp only [element]
      split
      · exact pending_schedule_le o _ _ _ _ _ (Schema.sizeProperties_lt n)
      · exact ih
    simp only [stack_setElement]
    omega
  | case2 => simp
  | case3 path s b _ _ ps hp =>
    exact pending_schedule_le o _ _ _ _ _ (Schema.sizeNamed_lt_of_properties hp)
  | case4 => simp
  | case5 => simp

theorem pending_field_le (path : Path) (name : String) (s : Schema) (b : Build) :
    pending (field o path name s b).2.stack ≤ pending b.stack + s.size := by
  unfold field
  split
  · simp
  · split
    · refine pending_schedule_le o _ _ _ _ _ ?_
      exact Nat.lt_of_lt_of_le (Schema.sizeProperties_lt _) (Schema.size_normalize_le s)
    · exact pending_typed_le o path s b

theorem pending_fields_le (path : Path) (ps : List (String × Schema)) (b : Build) :
    pending (fields o path ps b).2.stack ≤ pending b.stack + Schema.sizeNamed ps := by
  induction ps generalizing b with
  | nil => simp [fields]
  | cons p ps ih =>
    obtain ⟨name, s⟩ := p
    have h1 := pending_field_le o (path.child name) name s b
    have h2 := ih (field o (path.child name) name s b).2
    simp only [fields, Schema.sizeNamed]
    omega

/-- A turn leaves fewer waiting maps and schemas. -/
theorem pending_expand_lt (p : Pending) (b : Build) :
    pending (expand o p b).stack < pending (p :: b.stack) := by
  have h := pending_fields_le o p.path p.fields b
  simp only [expand, stack_setFields, pending]
  omega

/-- Takes maps from the stack until none waits. -/
def run (b : Build) : Build :=
  match _h : b.stack with
  | [] => b
  | p :: rest => run (expand o p { b with stack := rest })
termination_by pending b.stack
decreasing_by
  rw [_h]
  exact pending_expand_lt o p { b with stack := rest }

/-- The compilation of a schema, whose root is always an object. -/
def root (s : Schema) : Build :=
  let n := s.normalize
  let b := if n.properties.isSome then empty else empty.warn .root .objectWithoutProperties
  run o (schedule o .root n.properties n.facets.required false b).2

end Build

end Conform
