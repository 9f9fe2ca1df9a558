import Conform.Proofs.Json
import Conform.Proofs.Validator.Visits

/-!
# What a printed validator tells

A validator is printed as a value of JSON, and this value tells which validator it is: the member
`type` which kind of tree, the other members its parts. A bound that is not finite is printed as
null and could be any such bound; all other parts can be read from what is printed. Printed values
are compared without an order of members (`Json.inOrder`).

* `Constraint.same_toJson`: constraints that are printed alike are the same.
* `Validator.same_inOrder`: so are validators with finite bounds.
* `Validator.printed_eq_iff_same`: what the printed values tell.
-/

set_option autoImplicit false

namespace Conform

open Json

/-! ## Constraints -/

namespace Constraint

/-- A bound is finite. -/
def Finite : Constraint → Prop
  | min x | max x => x.isFinite = true
  | oneOf _ | integer | pattern _ => True

/-- The objects among permitted values, and inside them, have their members in order. -/
def Sorted : Constraint → Prop
  | oneOf vs => ∀ v ∈ vs, v.Sorted
  | min _ | max _ | integer | pattern _ => True

theorem sorted_ofBinary64 (x : Binary64) : (ofBinary64 x).Sorted := by
  rw [ofBinary64]
  split
  · exact .num _
  · exact .null

theorem sorted_toJson {c : Constraint} (h : c.Sorted) : c.toJson.Sorted := by
  have hpair : ∀ {v w : Json}, v.Sorted → w.Sorted → (obj [("kind", v), ("value", w)]).Sorted := by
    intro v w hv hw
    have hkeys : (["kind", "value"] : List String).Pairwise (· < ·) := by decide
    rw [sorted_obj_iff, KeyMap.sorted_iff_keys]
    exact ⟨hkeys, by simp [hv, hw]⟩
  cases c with
  | min x | max x => exact hpair (.str _) (sorted_ofBinary64 x)
  | oneOf vs => exact hpair (.str _) (.arr h)
  | integer => simp [toJson, KeyMap.Sorted]
  | pattern p => exact hpair (.str _) (.str _)

theorem same_ofBinary64 {x y : Binary64} (hx : x.isFinite = true) (hy : y.isFinite = true) :
    (ofBinary64 x).same (ofBinary64 y) = x.eq y := by
  rw [ofBinary64, if_pos hx, ofBinary64, if_pos hy, Json.same, Number.same]

/-- Constraints with finite bounds are printed alike exactly if they are the same. -/
theorem same_toJson {c d : Constraint} (hc : c.Finite) (hd : d.Finite) :
    c.toJson.same d.toJson = c.same d := by
  cases c with
  | min x =>
    cases d with
    | min y => simp [toJson, same, sameMembers, same_ofBinary64 hc hd]
    | _ => simp [toJson, same, sameMembers]
  | max x =>
    cases d with
    | max y => simp [toJson, same, sameMembers, same_ofBinary64 hc hd]
    | _ => simp [toJson, same, sameMembers]
  | _ => cases d <;> simp [toJson, same, sameMembers]

end Constraint

/-! ## Scalars -/

namespace BaseType

theorem name_beq (b c : BaseType) : (b.name == c.name) = (b == c) := by
  cases b <;> cases c <;> decide

end BaseType

namespace Scalar

theorem sameItems_constraints {cs ds : List Constraint} (hcs : ∀ c ∈ cs, c.Finite)
    (hds : ∀ d ∈ ds, d.Finite) :
    sameItems (cs.map Constraint.toJson) (ds.map Constraint.toJson) = sameConstraints cs ds := by
  induction cs generalizing ds with
  | nil => cases ds <;> rfl
  | cons c cs ih =>
    cases ds with
    | nil => rfl
    | cons d ds =>
      obtain ⟨hc, hcs⟩ := List.forall_mem_cons.1 hcs
      obtain ⟨hd, hds⟩ := List.forall_mem_cons.1 hds
      rw [List.map_cons, List.map_cons, sameItems, sameConstraints, Constraint.same_toJson hc hd,
        ih hcs hds]

end Scalar

namespace Validator

/-- All constraints in the validator have the property. -/
inductive EachConstraint (P : Constraint → Prop) : Validator → Prop
  | scalar {s : Scalar} (each : ∀ c ∈ s.constraints, P c) : EachConstraint P (.scalar s)
  | object {fields : List (String × Validator)} {required nullable : Bool}
    (each : ∀ f ∈ fields, EachConstraint P f.2) :
    EachConstraint P (.object fields required nullable)
  | array {element : Validator} {required nullable : Bool} {least most : Option Nat}
    (each : EachConstraint P element) :
    EachConstraint P (.array element required nullable least most)

/-! ## Printed values in order -/

theorem inOrder_toJson_scalar {s : Scalar} (h : ∀ c ∈ s.constraints, c.Sorted) :
    (toJson (.scalar s)).inOrder =
      .obj [("base", .str s.base.name), ("constraints", .arr (s.constraints.map Constraint.toJson)),
        ("nullable", .bool s.nullable), ("required", .bool s.required),
        ("type", .str "scalar")] := by
  have hconstraints : (arr (s.constraints.map Constraint.toJson)).Sorted :=
    .arr (List.forall_mem_map.2 fun c hc => Constraint.sorted_toJson (h c hc))
  rw [toJson, inOrder_obj, Scalar.members]
  simp only [List.map_cons, List.map_nil, inOrder_of_sorted hconstraints]
  simp (disch := decide) only [inOrder, KeyMap.ofList, List.foldl, KeyMap.put, KeyMap.alter, if_pos,
    if_neg]

theorem fieldsToJson_eq (fields : List (String × Validator)) :
    fieldsToJson fields = fields.map fun f => (f.1, f.2.toJson) := by
  induction fields with
  | nil => rw [fieldsToJson, List.map_nil]
  | cons f fields ih => rw [fieldsToJson, ih, List.map_cons]

theorem inOrder_toJson_object {fields : List (String × Validator)} (h : KeyMap.Sorted fields)
    (required nullable : Bool) :
    (toJson (.object fields required nullable)).inOrder =
      .obj [("fields", .obj (fields.map fun f => (f.1, f.2.toJson.inOrder))),
        ("nullable", .bool nullable), ("required", .bool required), ("type", .str "object")] := by
  rw [toJson, inOrder_obj, fieldsToJson_eq]
  simp only [List.map_cons, List.map_nil, inOrder_obj_of_sorted (h.map toJson), List.map_map]
  simp (disch := decide) only [inOrder, KeyMap.ofList, List.foldl, KeyMap.put, KeyMap.alter, if_pos,
    if_neg]
  rfl

theorem inOrder_toJson_array (element : Validator) (required nullable : Bool)
    (least most : Option Nat) :
    (toJson (.array element required nullable least most)).inOrder =
      .obj ([("element", element.toJson.inOrder)] ++ countMember "maxItems" most ++
        countMember "minItems" least ++ [("nullable", .bool nullable), ("required", .bool required),
        ("type", .str "array")]) := by
  rw [toJson, inOrder_obj]
  cases least <;> cases most <;>
    simp (disch := decide) only [countMember, List.map_cons, List.map_nil, List.cons_append,
      List.nil_append, List.append_nil, inOrder, Json.nat, KeyMap.ofList, List.foldl, KeyMap.put,
      KeyMap.alter, if_pos, if_neg]

/-! ## Validators -/

/-- The maps in the validator are in order, those in permitted values included, and all bounds are
finite. -/
structure Printable (v : Validator) : Prop where
  fields : v.Sorted
  values : v.EachConstraint Constraint.Sorted
  bounds : v.EachConstraint Constraint.Finite

theorem EachConstraint.of_scalar {P : Constraint → Prop} {s : Scalar}
    (h : EachConstraint P (.scalar s)) : ∀ c ∈ s.constraints, P c := by
  cases h with
  | scalar each => exact each

theorem Printable.ascending {fields : List (String × Validator)} {required nullable : Bool}
    (h : (object fields required nullable).Printable) : KeyMap.Sorted fields := by
  cases h.fields with
  | object ascending _ => exact ascending

theorem Printable.field {fields : List (String × Validator)} {required nullable : Bool}
    (h : (object fields required nullable).Printable) {f : String × Validator} (hf : f ∈ fields) :
    f.2.Printable := by
  obtain ⟨hfields, hvalues, hbounds⟩ := h
  cases hfields with
  | object _ sorted =>
    cases hvalues with
    | object values =>
      cases hbounds with
      | object bounds => exact ⟨sorted f hf, values f hf, bounds f hf⟩

theorem Printable.element {element : Validator} {required nullable : Bool}
    {least most : Option Nat} (h : (array element required nullable least most).Printable) :
    element.Printable := by
  obtain ⟨hfields, hvalues, hbounds⟩ := h
  cases hfields with
  | array sorted =>
    cases hvalues with
    | array values =>
      cases hbounds with
      | array bounds => exact ⟨sorted, values, bounds⟩

theorem same_inOrder_scalar {s t : Scalar} (hs : (scalar s).Printable) (ht : (scalar t).Printable) :
    (toJson (.scalar s)).inOrder.same (toJson (.scalar t)).inOrder = s.same t := by
  have hconstraints := Scalar.sameItems_constraints hs.bounds.of_scalar ht.bounds.of_scalar
  rw [inOrder_toJson_scalar hs.values.of_scalar, inOrder_toJson_scalar ht.values.of_scalar]
  simp only [same_obj, sameMembers, same_str, same_bool, same_arr, hconstraints, BaseType.name_beq,
    Scalar.same, beq_self_eq_true, Bool.true_and, Bool.and_true]
  ac_rfl

/-- Members that may be left out are printed alike if they are the same. -/
theorem same_inOrder_array (e f : Validator) (r n q m : Bool) (lo hi lo' hi' : Option Nat) :
    (toJson (.array e r n lo hi)).inOrder.same (toJson (.array f q m lo' hi')).inOrder =
      (e.toJson.inOrder.same f.toJson.inOrder && r == q && n == m && lo == lo' && hi == hi') := by
  rw [inOrder_toJson_array, inOrder_toJson_array, same_obj]
  cases lo <;> cases hi <;> cases lo' <;> cases hi' <;>
    simp [countMember, sameMembers] <;> ac_rfl

mutual

theorem same_inOrder (v w : Validator) (hv : v.Printable) (hw : w.Printable) :
    v.toJson.inOrder.same w.toJson.inOrder = v.same w := by
  match v, w with
  | scalar s, scalar t =>
    rw [same]
    exact same_inOrder_scalar hv hw
  | object fs r n, object gs q m =>
    have hfields := sameMembers_fields fs gs (fun f hf => hv.field hf) fun g hg => hw.field hg
    rw [inOrder_toJson_object hv.ascending, inOrder_toJson_object hw.ascending]
    simp only [same_obj, sameMembers, same_str, same_bool, hfields, same, beq_self_eq_true,
      Bool.true_and, Bool.and_true]
    ac_rfl
  | array e r n lo hi, array f q m lo' hi' =>
    rw [same_inOrder_array, same_inOrder e f hv.element hw.element, same]
  -- trees of two kinds have members with different names
  | scalar s, object gs q m =>
    rw [inOrder_toJson_scalar hv.values.of_scalar, inOrder_toJson_object hw.ascending]
    simp [sameMembers, same]
  | object fs r n, scalar t =>
    rw [inOrder_toJson_object hv.ascending, inOrder_toJson_scalar hw.values.of_scalar]
    simp [sameMembers, same]
  | scalar s, array f q m lo hi =>
    rw [inOrder_toJson_scalar hv.values.of_scalar, inOrder_toJson_array]
    simp [sameMembers, same]
  | array e r n lo hi, scalar t =>
    rw [inOrder_toJson_array, inOrder_toJson_scalar hw.values.of_scalar]
    simp [sameMembers, same]
  | object fs r n, array f q m lo hi =>
    rw [inOrder_toJson_object hv.ascending, inOrder_toJson_array]
    simp [sameMembers, same]
  | array e r n lo hi, object gs q m =>
    rw [inOrder_toJson_array, inOrder_toJson_object hw.ascending]
    simp [sameMembers, same]

theorem sameMembers_fields (fs gs : List (String × Validator)) (hfs : ∀ f ∈ fs, f.2.Printable)
    (hgs : ∀ g ∈ gs, g.2.Printable) :
    sameMembers (fs.map fun f => (f.1, f.2.toJson.inOrder))
      (gs.map fun g => (g.1, g.2.toJson.inOrder)) = sameFields fs gs := by
  match fs, gs with
  | [], [] => rfl
  | [], (name, w) :: gs => rfl
  | (name, v) :: fs, [] => rfl
  | (name, v) :: fs, (other, w) :: gs =>
    obtain ⟨hv, hfs⟩ := List.forall_mem_cons.1 hfs
    obtain ⟨hw, hgs⟩ := List.forall_mem_cons.1 hgs
    rw [List.map_cons, List.map_cons, sameMembers, sameFields, sameMembers_fields fs gs hfs hgs,
      same_inOrder v w hv hw]

end

/-- **A printed validator tells which one it is.** Validators with finite bounds are printed as
equal values exactly if they are the same: trees of one form, with the same flags and numbers of
items, and with the same constraints in the same order. -/
theorem printed_eq_iff_same {v w : Validator} (hv : v.Printable) (hw : w.Printable) :
    (v.toJson.inOrder == w.toJson.inOrder) = true ↔ v.same w = true := by
  rw [beq_eq_same, same_inOrder v w hv hw]

-- bounds that are not finite are printed alike
example : (Constraint.min .infinity).toJson = (Constraint.min .nan).toJson := rfl

/-- Codes, of which the lengths are bounded by a zero with a sign. -/
def coded (negative : Bool) : Validator :=
  .object [
    ("codes", .array (.scalar ⟨.string, true, false,
      [.oneOf [.obj [("a", .nat 1), ("b", .null)]], .min (.withSign negative .zero), .integer]⟩)
      true false (some 1) none),
    ("name", .scalar .permissive)] false true

theorem printable_coded (negative : Bool) : (coded negative).Printable := by
  have hzero : (Binary64.withSign negative .zero).isFinite = true := by cases negative <;> decide
  have hvalue : (Json.obj [("a", .nat 1), ("b", .null)]).Sorted :=
    .obj (KeyMap.sorted_iff_keys.2 (by decide)) (by simp [Json.nat])
  have hnames : (["codes", "name"] : List String).Pairwise (· < ·) := by decide
  refine ⟨.object (KeyMap.sorted_iff_keys.2 hnames) ?_, .object ?_, .object ?_⟩
  · exact List.forall_mem_cons.2
      ⟨.array (.scalar _), List.forall_mem_singleton.2 (.scalar _)⟩
  · refine List.forall_mem_cons.2 ⟨.array (.scalar ?_), List.forall_mem_singleton.2 (.scalar ?_)⟩
    · simpa [Constraint.Sorted] using hvalue
    · simp [Scalar.permissive, Scalar.of]
  · refine List.forall_mem_cons.2 ⟨.array (.scalar ?_), List.forall_mem_singleton.2 (.scalar ?_)⟩
    · simpa [Constraint.Finite] using hzero
    · simp [Scalar.permissive, Scalar.of]

/-- The zeros are the same number, so these are the same validators and printed alike. -/
theorem printed_eq_iff_same_coded :
    (coded true).Printable ∧ (coded false).Printable ∧ coded true ≠ coded false ∧
    ((coded true).toJson.inOrder == (coded false).toJson.inOrder) = true := by
  refine ⟨printable_coded true, printable_coded false, ?_, ?_⟩
  · intro h
    simp [coded, Binary64.withSign] at h
  · exact (printed_eq_iff_same (printable_coded true) (printable_coded false)).2 (by decide)

end Validator

end Conform
