import Conform.Proofs.Compile.Meaning
import Conform.Proofs.Validator.Reports

/-!
# What the blacklist hides

`Validator.without names` leaves the fields with the given names out of a validator at every depth.
It reports what the validator reports except at and below fields of those names
(`reports_without`), and it is what a compilation with these names on the blacklist gives in place
of the validator without a blacklist (`Plain.root_blackList`). Pruning a map of properties before
its required names are resolved changes no flag of a field that stays.

* `validate_blackList`: the blacklist hides the violations of blacklisted fields and no others.

Validators for fields of a name are taken as they are, so these must not have fields.
-/

set_option autoImplicit false

namespace Conform

/-- The path goes through a field with one of the names. -/
def Path.mentions (names : List String) (path : Path) : Bool :=
  path.any fun
    | .field name => names.contains name
    | _ => false

namespace Violation

/-- The violations whose path goes through none of the fields. -/
def hide (names : List String) (es : List Violation) : List Violation :=
  es.filter fun e => !e.path.mentions names

variable (names : List String)

@[simp] theorem hide_nil : hide names [] = [] := rfl

@[simp] theorem hide_append (es fs : List Violation) :
    hide names (es ++ fs) = hide names es ++ hide names fs := List.filter_append ..

/-- What a value has wrong itself is not hidden at the root. -/
theorem hide_own (ps : List Problem) :
    hide names (ps.map Problem.violation) = ps.map Problem.violation := by
  simp [hide, Path.mentions, Path.root]

theorem hide_under_field (name : String) (es : List Violation) :
    hide names (es.map (under [.field name])) =
      if name ∈ names then [] else (hide names es).map (under [.field name]) := by
  by_cases h : name ∈ names <;>
    simp [hide, Path.mentions, List.filter_map, Function.comp_def, h]

theorem hide_under_index (i : Nat) (es : List Violation) :
    hide names (es.map (under [.index i])) = (hide names es).map (under [.index i]) := by
  simp [hide, Path.mentions, List.filter_map, Function.comp_def]

end Violation

/-! ## Leaving out fields -/

namespace Validator

open Violation

variable (names : List String)

mutual

/-- The validator without the fields of the given names, at every depth. -/
def without : Validator → Validator
  | scalar s => scalar s
  | object fields required nullable => object (withoutFields fields) required nullable
  | array element required nullable least most =>
    array (without element) required nullable least most

/-- The other fields, each without those below it. -/
def withoutFields : List (String × Validator) → List (String × Validator)
  | [] => []
  | (name, v) :: rest =>
    if names.contains name then withoutFields rest
    else (name, without v) :: withoutFields rest

end

/-- What is wrong with a value itself is not up to the fields. -/
theorem ownProblems_without (v : Validator) (x : Option Json) :
    (v.without names).ownProblems x = v.ownProblems x := by
  cases v <;> rfl

theorem hide_itemReports {report other : Json → List Violation}
    (h : ∀ y, other y = hide names (report y)) (items : List Json) :
    itemReports other items = hide names (itemReports report items) := by
  have hk : ∀ k, ((items.zipIdx k).flatMap fun y => (other y.1).map (under [.index y.2])) =
      hide names ((items.zipIdx k).flatMap fun y => (report y.1).map (under [.index y.2])) := by
    induction items with
    | nil => simp
    | cons y items ih =>
      intro k
      rw [List.zipIdx_cons, List.flatMap_cons, List.flatMap_cons, hide_append, hide_under_index,
        ih, h]
  exact hk 0

mutual

/-- **Without some fields** a validator reports the same, except at and below these fields. -/
theorem reports_without (v : Validator) (x : Option Json) :
    (v.without names).reports x = hide names (v.reports x) := by
  rw [reports.eq_def, reports.eq_def, hide_append, hide_own, ownProblems_without]
  match v with
  | scalar s => rfl
  | object fields required nullable =>
    cases membersBelow x with
    | none => rfl
    | some ms => exact congrArg _ (fieldReports_without fields ms)
  | array element required nullable least most =>
    exact congrArg _ (hide_itemReports names (fun y => reports_without element (some y)) _)

theorem fieldReports_without (fields : List (String × Validator)) (ms : List (String × Json)) :
    fieldReports (withoutFields names fields) ms = hide names (fieldReports fields ms) := by
  match fields with
  | [] => rw [withoutFields, fieldReports]; rfl
  | (name, v) :: rest =>
    rw [withoutFields, fieldReports, hide_append, hide_under_field]
    by_cases hn : name ∈ names
    · rw [if_pos (by simpa using hn), if_pos hn, List.nil_append, fieldReports_without rest]
    · rw [if_neg (by simpa using hn), if_neg hn, fieldReports, fieldReports_without rest,
        reports_without v]

end

end Validator

/-! ## Compiling with a blacklist -/

theorem prune_nil (ps : List (String × Schema)) : prune [] ps = ps := by
  simp [prune]

namespace Plain

/-- Compiling with a blacklist gives what is left without the blacklisted fields of what compiling
without a blacklist gives. -/
theorem object_blackList (o : Options) (hc : ∀ f ∈ o.custom, ∃ t, f.2 = .scalar t)
    (ps : Option (List (String × Schema))) (names : Option (List String)) (required : Bool) :
    object o ps names required =
      (object { o with blackList := [] } ps names required).without o.blackList := by
  refine (Plain.object.mutual_induct { o with blackList := [] }
    (fun ps names required => object o ps names required =
      (object { o with blackList := [] } ps names required).without o.blackList)
    (fun names ps => fields o names (prune o.blackList ps) =
      Validator.withoutFields o.blackList (fields { o with blackList := [] } names ps))
    (fun name s required => field o name s required =
      (field { o with blackList := [] } name s required).without o.blackList)
    (fun s required => typed o s required =
      (typed { o with blackList := [] } s required).without o.blackList)
    (fun i => item o i = (item { o with blackList := [] } i).without o.blackList)
    ?_ ?_ ?_ ?_ ?_ ?_ ?_ ?_ ?_ ?_ ?_ ?_ ?_).1 ps names required
  · intro ps names required ih
    rw [prune_nil] at ih
    rw [object, object, prune_nil, ih, Validator.without]
  · intro names
    simp [prune, fields, Validator.withoutFields]
  · intro names name s ps ihs ihps
    rw [fields.eq_def _ _ (_ :: _), Validator.withoutFields, ← ihs, ← ihps]
    by_cases hb : name ∈ o.blackList
    · have hp : prune o.blackList ((name, s) :: ps) = prune o.blackList ps := by
        simp [prune, hb]
      rw [hp, if_pos (by simpa using hb)]
    · have hp : prune o.blackList ((name, s) :: ps) = (name, s) :: prune o.blackList ps := by
        simp [prune, hb]
      rw [hp, fields, if_neg (by simpa using hb)]
  · intro name s required v hv
    obtain ⟨t, ht⟩ := hc _ (KeyMap.mem_of_lookup hv)
    rw [field_of_custom (o := o) hv, field_of_custom hv]
    cases ht
    rfl
  · intro name s required hn ha ih
    rw [field_of_allOf (o := o) hn ha, field_of_allOf hn ha, ih]
  · intro name s required hn ha ih
    rw [field_of_typed (o := o) hn ha, field_of_typed hn ha, ih]
  · intro s required ht i hi ih
    rw [typed_of_items ht hi, typed_of_items ht hi, ih, Validator.without]
  · intro s required ht hi
    rw [typed_of_no_items ht hi, typed_of_no_items ht hi]
    rfl
  · intro s required _ ht ps hp ih
    rw [typed_of_properties ht hp, typed_of_properties ht hp, ih]
  · intro s required _ ht hp
    rw [typed_of_no_properties ht hp, typed_of_no_properties ht hp]
    rfl
  · intro s required ha ht
    rw [typed_of_other ha ht, typed_of_other ha ht]
    rfl
  · intro i hi ih
    rw [item, item, if_pos hi, if_pos hi, ih]
  · intro i hi ih
    rw [item, item, if_neg hi, if_neg hi, ih]

theorem root_blackList (o : Options) (hc : ∀ f ∈ o.custom, ∃ t, f.2 = .scalar t) (s : Schema) :
    root o s = (root { o with blackList := [] } s).without o.blackList :=
  object_blackList o hc _ _ _

end Plain

/-- **The blacklist hides blacklisted fields and nothing else.** With it the violations of a
document are those without it, in the same order, except at and below fields of the blacklisted
names. -/
theorem validate_blackList (o : Options) (names : List String)
    (hc : ∀ f ∈ o.custom, ∃ t, f.2 = .scalar t) {s : Schema} (hs : s.Sorted) (d : Json) :
    (compile { o with blackList := names } s).validator.validate d =
      ((compile { o with blackList := [] } s).validator.validate d).filter
        fun e => !e.path.mentions names := by
  have hwith : (compile { o with blackList := names } s).validator =
      ((compile { o with blackList := [] } s).validator).without names :=
    (assemble_root _ hs).trans ((Plain.root_blackList { o with blackList := names } hc s).trans
      (congrArg _ (assemble_root { o with blackList := [] } hs).symm))
  rw [hwith, Validator.validate_eq, Validator.validate_eq, Validator.reports_without]
  rfl

/-- A shipment without its secret and with a stop that has no name. -/
def Json.shipment : Json := .obj [("note", .str "fragile"), ("stops", .arr [.obj []])]

theorem validate_blackList_shipment :
    Schema.shipment.Sorted ∧
    (∀ f ∈ [("note", Validator.scalar .permissive)], ∃ t, f.2 = .scalar t) ∧
    (compile ⟨.default, [("note", .scalar .permissive)], ["secret"], false⟩
        Schema.shipment).validator.validate .shipment =
      [⟨[.field "stops", .index 0, .field "name"], .required, "is a required field"⟩] ∧
    (compile ⟨.default, [("note", .scalar .permissive)], [], false⟩
        Schema.shipment).validator.validate .shipment =
      [⟨[.field "secret"], .required, "is a required field"⟩,
        ⟨[.field "stops", .index 0, .field "name"], .required, "is a required field"⟩] := by
  have hc : ∀ f ∈ [("note", Validator.scalar .permissive)], ∃ t, f.2 = .scalar t := by
    intro f hf
    cases List.mem_singleton.1 hf
    exact ⟨_, rfl⟩
  have hbare : (compile ⟨.default, [("note", .scalar .permissive)], [], false⟩
      Schema.shipment).validator.validate .shipment =
      [⟨[.field "secret"], .required, "is a required field"⟩,
        ⟨[.field "stops", .index 0, .field "name"], .required, "is a required field"⟩] := by
    rw [show (compile _ _).validator = _ from assemble_root _ Schema.sorted_shipment,
      Plain.root_shipment]
    decide
  have h := validate_blackList ⟨.default, [("note", .scalar .permissive)], [], false⟩ ["secret"] hc
    Schema.sorted_shipment .shipment
  refine ⟨Schema.sorted_shipment, hc, h.trans ?_, hbare⟩
  rw [hbare]
  decide

end Conform
