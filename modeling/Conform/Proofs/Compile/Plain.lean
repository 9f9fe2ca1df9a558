import Conform.Compile.Basic
import Conform.Proofs.Schema.Sorted

/-!
# Compiling by recursion

What a schema compiles to, said without a stack, without slots and without a set of paths: one
function for each kind of position, which call one another on the schemas below. `Plain.object` is
the object over a map of properties, `Plain.field` a property, `Plain.typed` a position whose type
decides, `Plain.item` the items of a list and `Plain.root` a whole schema. Whether a field is
required is looked up in the list `required` next to its properties.

The recursion is on the number of schemas, since the properties of a normalized schema are no part
of the schema itself.
-/

set_option autoImplicit false

namespace Conform

namespace Schema

theorem sizeProperties_normalize_lt (s : Schema) :
    sizeProperties s.normalize.properties < s.size :=
  Nat.lt_of_lt_of_le (sizeProperties_lt _) (size_normalize_le s)

theorem sizeNamed_prune_getD_le (blackList : List String)
    (properties : Option (List (String × Schema))) :
    sizeNamed (prune blackList (properties.getD [])) ≤ sizeProperties properties := by
  cases properties with
  | none => simp [prune, sizeNamed]
  | some ps => exact sizeNamed_prune_le blackList ps

/-- The schema is compiled as an object where it describes items. -/
def isObjectItem (s : Schema) : Bool :=
  s.properties.isSome || s.typeName? = some "object"

end Schema

namespace Plain

variable (o : Options)

/-- The steps that build the scalar of a leaf: permitted values first, then the bounds, and last
that it is required. -/
def leafSteps (s : Schema) (required : Bool) : List Scalar.Step :=
  (s.facets.enum.map .oneOf).toList ++ (s.lower?.map .min).toList ++ (s.upper?.map .max).toList ++
    if required then [.required] else []

/-- A leaf: the steps are applied to the scalar registered for the type, or to the permissive
one. -/
def leaf (s : Schema) (required : Bool) : Validator :=
  .scalar ((leafSteps s required).foldl Scalar.Step.apply
    ((s.typeName?.bind fun name => o.types.lookup name).getD .permissive))

theorem leaf_eq (s : Schema) (required : Bool) :
    leaf o s required = .scalar (o.leafScalar s required) := by
  have hbase : (s.typeName?.bind fun name => o.types.lookup name).getD .permissive =
      o.leafBase s := by
    unfold Options.leafBase
    cases s.typeName? <;> rfl
  rw [leaf, hbase, leafSteps, Options.leafScalar]
  cases s.facets.enum <;> cases s.lower? <;> cases s.upper? <;> cases required <;> rfl

mutual

/-- The object over a map of properties: the blacklisted names are left out. -/
def object (properties : Option (List (String × Schema))) (names : Option (List String))
    (required : Bool) : Validator :=
  .object (fields (names.getD []) (prune o.blackList (properties.getD []))) required false
termination_by (Schema.sizeProperties properties, 3)
decreasing_by
  have h := Schema.sizeNamed_prune_getD_le o.blackList properties
  simp only [Prod.lex_def]
  omega

/-- The fields of an object, of which those with the given names are required. -/
def fields (names : List String) : List (String × Schema) → List (String × Validator)
  | [] => []
  | (name, s) :: ps => (name, field name s (names.contains name)) :: fields names ps
termination_by ps => (Schema.sizeNamed ps, 2)
decreasing_by
  all_goals
    have h := Schema.size_pos s
    simp only [Schema.sizeNamed, Prod.lex_def]
    omega

/-- A property: the validator given for its name, an object if it has `allOf`, or what its type
says. -/
def field (name : String) (s : Schema) (required : Bool) : Validator :=
  match o.custom.lookup name with
  | some v => v
  | none =>
    if s.allOf.isSome then object s.normalize.properties s.normalize.facets.required required
    else typed s required
termination_by (s.size, 1)
decreasing_by
  · have h := Schema.sizeProperties_normalize_lt s
    simp only [Prod.lex_def]
    omega
  · exact .right _ (by omega)

/-- A position whose type decides: a list with a schema for its items, an object with properties,
or a leaf. -/
def typed (s : Schema) (required : Bool) : Validator :=
  if s.typeName? = some "array" then
    match _h : s.items with
    | some i => .array (item i) required false s.facets.minItems s.facets.maxItems
    | none => leaf o s required
  else if s.typeName? = some "object" then
    match _h : s.properties with
    | some ps => object (some ps) s.facets.required required
    | none => leaf o s required
  else leaf o s required
termination_by (s.size, 0)
decreasing_by
  · have h := Schema.size_lt_of_items _h
    simp only [Prod.lex_def]
    omega
  · have h := Schema.sizeNamed_lt_of_properties _h
    simp only [Schema.sizeProperties, Prod.lex_def]
    omega

/-- The items of a list, which are never required. -/
def item (i : Schema) : Validator :=
  if i.normalize.isObjectItem then
    object i.normalize.properties i.normalize.facets.required false
  else typed i.normalize false
termination_by (i.size, 1)
decreasing_by
  · have h := Schema.sizeProperties_normalize_lt i
    simp only [Prod.lex_def]
    omega
  · have h := Schema.size_normalize_le i
    simp only [Prod.lex_def]
    omega

end

/-- A whole schema is an object, which is not required. -/
def root (s : Schema) : Validator :=
  object o s.normalize.properties s.normalize.facets.required false

variable {o : Options} {s : Schema} {required : Bool}

theorem typed_of_items (ht : s.typeName? = some "array") {i : Schema} (hi : s.items = some i) :
    typed o s required = .array (item o i) required false s.facets.minItems s.facets.maxItems := by
  rw [typed, if_pos ht]
  split
  · rename_i j hj
    rw [hi] at hj
    cases hj
    rfl
  · rename_i hn
    rw [hi] at hn
    cases hn

theorem typed_of_no_items (ht : s.typeName? = some "array") (hi : s.items = none) :
    typed o s required = .scalar (o.leafScalar s required) := by
  rw [typed, if_pos ht]
  split
  · rename_i j hj
    rw [hi] at hj
    cases hj
  · exact leaf_eq o s required

theorem typed_of_properties (ht : s.typeName? = some "object") {ps : List (String × Schema)}
    (hp : s.properties = some ps) :
    typed o s required = object o (some ps) s.facets.required required := by
  rw [typed, if_neg (by simp [ht]), if_pos ht]
  split
  · rename_i qs hq
    rw [hp] at hq
    cases hq
    rfl
  · rename_i hn
    rw [hp] at hn
    cases hn

theorem typed_of_no_properties (ht : s.typeName? = some "object") (hp : s.properties = none) :
    typed o s required = .scalar (o.leafScalar s required) := by
  rw [typed, if_neg (by simp [ht]), if_pos ht]
  split
  · rename_i qs hq
    rw [hp] at hq
    cases hq
  · exact leaf_eq o s required

theorem typed_of_other (ha : s.typeName? ≠ some "array") (ht : s.typeName? ≠ some "object") :
    typed o s required = .scalar (o.leafScalar s required) := by
  rw [typed, if_neg ha, if_neg ht, leaf_eq]

theorem field_of_custom {name : String} {v : Validator} (hc : o.custom.lookup name = some v) :
    field o name s required = v := by
  rw [field, hc]

theorem field_of_allOf {name : String} (hc : o.custom.lookup name = none)
    (ha : s.allOf.isSome = true) :
    field o name s required =
      object o s.normalize.properties s.normalize.facets.required required := by
  rw [field, hc]
  exact if_pos ha

theorem field_of_typed {name : String} (hc : o.custom.lookup name = none)
    (ha : ¬ s.allOf.isSome = true) : field o name s required = typed o s required := by
  rw [field, hc]
  exact if_neg ha

theorem fields_eq (names : List String) (ps : List (String × Schema)) :
    fields o names ps = ps.map fun p => (p.1, field o p.1 p.2 (names.contains p.1)) := by
  induction ps with
  | nil => rw [fields]; rfl
  | cons p ps ih => rw [fields, ih]; rfl

/-- What holds of leaves, of lists if it holds of their items, and of objects if it holds of all
fields for which no validator is given, holds of all that objects compile to. -/
theorem induct_object {motive : Validator → Prop} (hscalar : ∀ t, motive (.scalar t))
    (harray : ∀ element required least most, motive element →
      motive (.array element required false least most))
    (hobject : ∀ names ps required, Schema.SortedMap ps →
      (∀ name s, (name, s) ∈ ps → o.custom.lookup name = none →
        motive (field o name s (names.contains name))) →
      motive (.object (fields o names ps) required false))
    (ps : Option (List (String × Schema))) (names : Option (List String)) (required : Bool)
    (h : Schema.SortedMap (ps.getD [])) : motive (object o ps names required) := by
  refine (Plain.object.mutual_induct o
    (fun ps names required => Schema.SortedMap (ps.getD []) → motive (object o ps names required))
    (fun names ps => Schema.SortedMap ps → ∀ name s, (name, s) ∈ ps →
      o.custom.lookup name = none → motive (field o name s (names.contains name)))
    (fun name s required => s.Sorted → o.custom.lookup name = none →
      motive (field o name s required))
    (fun s required => s.Sorted → motive (typed o s required))
    (fun i => i.Sorted → motive (item o i))
    ?_ ?_ ?_ ?_ ?_ ?_ ?_ ?_ ?_ ?_ ?_ ?_ ?_).1 ps names required h
  · intro ps names required ih h
    have hp := h.prune o.blackList
    rw [object]
    exact hobject _ _ _ hp (ih hp)
  · intro names _ name s hs
    cases hs
  · intro names name s ps ihs ihps h k t ht hk
    rcases List.mem_cons.1 ht with he | ht
    · cases he
      exact ihs (h.sorted (name, s) List.mem_cons_self) hk
    · exact ihps h.tail k t ht hk
  · intro name s required v hv _ hn
    rw [hv] at hn
    cases hn
  · intro name s required hn ha ih h _
    rw [field_of_allOf hn ha]
    exact ih h.normalize.getD_properties
  · intro name s required hn ha ih h _
    rw [field_of_typed hn ha]
    exact ih h
  · intro s required ht i hi ih h
    rw [typed_of_items ht hi]
    exact harray _ _ _ _ (ih (h.item hi))
  · intro s required ht hi _
    rw [typed_of_no_items ht hi]
    exact hscalar _
  · intro s required _ ht ps hp ih h
    rw [typed_of_properties ht hp]
    exact ih (h.map hp)
  · intro s required _ ht hp _
    rw [typed_of_no_properties ht hp]
    exact hscalar _
  · intro s required ha ht _
    rw [typed_of_other ha ht]
    exact hscalar _
  · intro i hi ih h
    rw [item, if_pos hi]
    exact ih h.normalize.getD_properties
  · intro i hi ih h
    rw [item, if_neg hi]
    exact ih h.normalize

end Plain

end Conform
