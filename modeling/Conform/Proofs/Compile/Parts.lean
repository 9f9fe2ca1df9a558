import Conform.Proofs.Compile.Meaning
import Conform.Proofs.Compile.Warnings
import Conform.Proofs.Schema.Normalize

/-!
# The parts of a compiled validator

A path of fields and items leads from a validator to a part of it (`Validator.part?`). At the path
of every position of a schema the compiled validator has the part that this position compiles to
(`part?_of_mem_ofRoot`): for a property of an object over a map that is `Plain.field`, for the items
of a list `Plain.item`.
-/

set_option autoImplicit false

namespace Conform

namespace Validator

/-- The part of a validator at the end of a path of fields and items. -/
def part? : Path → Validator → Option Validator
  | [], v => some v
  | .field name :: path, object fields _ _ => (fields.lookup name).bind (part? path)
  | .items :: path, array element _ _ _ _ => part? path element
  | _ :: _, _ => none

theorem part?_append (p q : Path) (v : Validator) :
    part? (p ++ q) v = (part? p v).bind (part? q) := by
  induction p generalizing v with
  | nil => rfl
  | cons seg p ih =>
    rw [List.cons_append]
    cases seg with
    | field name =>
      cases v with
      | scalar s => rfl
      | object fields required nullable =>
        rw [part?, part?, Option.bind_assoc]
        exact congrArg _ (funext ih)
      | array element required nullable least most => rfl
    | index i => cases v <;> rfl
    | items =>
      cases v with
      | scalar s => rfl
      | object fields required nullable => rfl
      | array element required nullable least most => exact ih element

end Validator

namespace Plain

variable {o : Options}

theorem lookup_fields (names : List String) (ps : List (String × Schema)) (name : String) :
    (fields o names ps).lookup name =
      (ps.lookup name).map fun s => field o name s (names.contains name) := by
  rw [fields_eq]
  exact KeyMap.lookup_mapWith (fun name s => field o name s (names.contains name)) ps name

theorem object_getD (ps : Option (List (String × Schema))) (names : Option (List String))
    (required : Bool) :
    object o (some (ps.getD [])) (some (names.getD [])) required = object o ps names required := by
  rw [object, object]
  rfl

end Plain

namespace Position

open Plain Validator

variable {o : Options} {path : Path} {v : Validator} {q : Position}

/-- What a position compiles to. -/
def validator (o : Options) (required : Bool) : Position → Validator
  | object _ ps names => Plain.object o (some ps) (some names) required
  | typed _ s => Plain.typed o s required

/-- What a position is about is sorted. -/
def Sorted : Position → Prop
  | object _ ps _ => Schema.SortedMap ps
  | typed _ s => s.Sorted

/-- The position is at or below the path, and what it compiles to is the part of the validator
there. -/
structure IsPart (o : Options) (path : Path) (v : Validator) (q : Position) : Prop where
  sorted : q.Sorted
  part : ∃ rest required, q.path = path ++ rest ∧ part? rest v = some (q.validator o required)

theorem IsPart.refl {required : Bool} (hq : q.Sorted) :
    IsPart o q.path (q.validator o required) q :=
  ⟨hq, [], required, (List.append_nil _).symm, rfl⟩

/-- What is part of a part is part of the whole. -/
theorem IsPart.trans {step : Path} {w : Validator} (h : IsPart o (path ++ step) w q)
    (hw : part? step v = some w) : IsPart o path v q := by
  obtain ⟨rest, required, hp, hpart⟩ := h.part
  refine ⟨h.sorted, step ++ rest, required, ?_, ?_⟩
  · rw [hp, List.append_assoc]
  · rw [part?_append, hw, Option.bind_some, hpart]

/-- The positions of an object are parts of what it compiles to. -/
theorem isPart_ofObject (ps : Option (List (String × Schema))) (names : Option (List String))
    (required : Bool) (hs : Schema.SortedMap (ps.getD [])) :
    ∀ q ∈ ofObject o path ps names, IsPart o path (Plain.object o ps names required) q := by
  have single : ∀ (path : Path) (s : Schema) (required : Bool), s.Sorted →
      ∀ q ∈ [Position.typed path s], IsPart o path (Plain.typed o s required) q := by
    intro path s required hs q hq
    cases List.mem_singleton.1 hq
    exact IsPart.refl (q := .typed path s) hs
  -- along the recursion of the positions; that of the validators takes the same turns
  refine (Position.ofObject.mutual_induct o
    (fun path ps names => ∀ required, Schema.SortedMap (ps.getD []) →
      ∀ q ∈ ofObject o path ps names, IsPart o path (Plain.object o ps names required) q)
    (fun path ps => Schema.SortedMap ps → ∀ q ∈ ofFields o path ps,
      ∃ name s, (name, s) ∈ ps ∧ ∀ required, IsPart o (path.child name) (field o name s required) q)
    (fun path name s => ∀ required, s.Sorted →
      ∀ q ∈ ofField o path name s, IsPart o path (field o name s required) q)
    (fun path s => ∀ required, s.Sorted →
      ∀ q ∈ ofTyped o path s, IsPart o path (Plain.typed o s required) q)
    (fun path i => i.Sorted → ∀ q ∈ ofItem o path i, IsPart o path (item o i) q)
    ?_ ?_ ?_ ?_ ?_ ?_ ?_ ?_ ?_ ?_ ?_ ?_ ?_).1 path ps names required hs
  · intro path ps names ih required hs q hq
    rw [ofObject] at hq
    rcases List.mem_cons.1 hq with rfl | hq
    · rw [← object_getD]
      exact IsPart.refl (q := .object path (ps.getD []) (names.getD [])) hs
    · have hsp := hs.prune o.blackList
      obtain ⟨name, s, hm, hpart⟩ := ih hsp q hq
      refine IsPart.trans (hpart ((names.getD []).contains name)) ?_
      rw [Plain.object, part?, lookup_fields, hsp.ascending.lookup_eq_some_iff.2 hm]
      rfl
  · intro path _ q hq
    rw [ofFields] at hq
    cases hq
  · intro path name s ps ihs ihps hs q hq
    rw [ofFields] at hq
    rcases List.mem_append.1 hq with hq | hq
    · exact ⟨name, s, List.mem_cons_self, fun required =>
        ihs required (hs.sorted _ List.mem_cons_self) q hq⟩
    · obtain ⟨k, t, hm, hpart⟩ := ihps hs.tail q hq
      exact ⟨k, t, List.mem_cons_of_mem _ hm, hpart⟩
  · intro path name s v hv required _ q hq
    rw [ofField, hv] at hq
    cases hq
  · intro path name s hn ha ih required hs
    rw [ofField, hn, field_of_allOf hn ha]
    simp only [if_pos ha]
    exact ih required hs.normalize.getD_properties
  · intro path name s hn ha ih required hs
    rw [ofField, hn, field_of_typed hn ha]
    simp only [if_neg ha]
    exact ih required hs
  · intro path s ht i hi ih required hs q hq
    rw [ofTyped_of_items ht hi] at hq
    rcases List.mem_cons.1 hq with rfl | hq
    · exact IsPart.refl (q := .typed path s) hs
    · refine IsPart.trans (ih (hs.item hi) q hq) ?_
      rw [typed_of_items ht hi, part?, part?]
  · intro path s ht hi required hs
    rw [ofTyped_of_no_items ht hi]
    exact single path s required hs
  · intro path s _ ht ps hp ih required hs
    rw [ofTyped_of_properties ht hp, typed_of_properties ht hp]
    exact ih required (hs.map hp)
  · intro path s _ ht hp required hs
    rw [ofTyped_of_no_properties ht hp]
    exact single path s required hs
  · intro path s ha ht required hs
    rw [ofTyped, if_neg ha, if_neg ht]
    exact single path s required hs
  · intro path i hi ih hs
    rw [ofItem, if_pos hi, item, if_pos hi]
    exact ih false hs.normalize.getD_properties
  · intro path i hi ih hs
    rw [ofItem, if_neg hi, item, if_neg hi]
    exact ih false hs.normalize

/-- Every position of a schema is a part of the compiled validator. -/
theorem part?_of_mem_ofRoot {s : Schema} (hs : s.Sorted) (hq : q ∈ ofRoot o s) :
    q.Sorted ∧
      ∃ required, part? q.path (compile o s).validator = some (q.validator o required) := by
  have h := isPart_ofObject _ _ false hs.normalize.getD_properties q hq
  obtain ⟨rest, required, hp, hpart⟩ := h.part
  rw [show (compile o s).validator = root o s from assemble_root o hs, hp]
  exact ⟨h.sorted, required, hpart⟩

end Position

/-! ## Properties and items -/

/-- In a schema there is an object at the path, with a property of the name that is not blacklisted;
the flag says whether it is in the list of required names there. -/
def HasProperty (o : Options) (r : Schema) (path : Path) (name : String) (s : Schema)
    (required : Bool) : Prop :=
  ∃ ps names, .object path ps names ∈ Position.ofRoot o r ∧ (name, s) ∈ prune o.blackList ps ∧
    names.contains name = required

/-- In a schema there is a list at the path, with a schema for its items. -/
def HasItems (o : Options) (r : Schema) (path : Path) (i : Schema) : Prop :=
  ∃ s : Schema, .typed path s ∈ Position.ofRoot o r ∧ s.typeName? = some "array" ∧ s.items = some i

variable {o : Options} {r s i : Schema} {path : Path} {name : String} {required : Bool}

theorem HasProperty.sorted (hr : r.Sorted) (h : HasProperty o r path name s required) :
    s.Sorted := by
  obtain ⟨ps, names, hm, hs, -⟩ := h
  exact ((Position.part?_of_mem_ofRoot hr hm).1.prune o.blackList).sorted _ hs

/-- A property compiles to a part of the validator. -/
theorem HasProperty.part?_eq (hr : r.Sorted) (h : HasProperty o r path name s required) :
    Validator.part? (path.child name) (compile o r).validator =
      some (Plain.field o name s required) := by
  obtain ⟨ps, names, hm, hs, rfl⟩ := h
  obtain ⟨hps, flag, hpart⟩ := Position.part?_of_mem_ofRoot hr hm
  have hobject : Validator.part? path (compile o r).validator =
      some (Plain.object o (some ps) (some names) flag) := hpart
  have hlookup := (hps.prune o.blackList).ascending.lookup_eq_some_iff.2 hs
  rw [Path.child, Validator.part?_append, hobject, Option.bind_some, Plain.object, Validator.part?,
    Option.getD_some, Option.getD_some, Plain.lookup_fields, hlookup]
  rfl

/-- So do the items of a list. -/
theorem HasItems.part?_eq (hr : r.Sorted) (h : HasItems o r path i) :
    Validator.part? path.items (compile o r).validator = some (Plain.item o i) := by
  obtain ⟨s, hm, ht, hi⟩ := h
  obtain ⟨-, flag, hpart⟩ := Position.part?_of_mem_ofRoot hr hm
  have htyped : Validator.part? path (compile o r).validator = some (Plain.typed o s flag) := hpart
  rw [Path.items, Validator.part?_append, htyped, Option.bind_some, Plain.typed_of_items ht hi,
    Validator.part?, Validator.part?]

theorem HasItems.sorted (hr : r.Sorted) (h : HasItems o r path i) : i.Sorted := by
  obtain ⟨s, hm, -, hi⟩ := h
  exact (Position.part?_of_mem_ofRoot hr hm).1.item hi

namespace Schema

/-- A parcel with a label. -/
def labelled (label : Schema) : Schema := ofProperties [("label", label)] ["label"]

theorem sorted_labelled {label : Schema} (h : label.Sorted) : (labelled label).Sorted :=
  sorted_ofProperties _ ⟨List.pairwise_singleton _ _, by simp [h]⟩

theorem hasProperty_labelled (label : Schema) :
    HasProperty .default (labelled label) .root "label" label true := by
  refine ⟨[("label", label)], ["label"], ?_, List.mem_cons_self, rfl⟩
  rw [Position.ofRoot, normalize_of_allOf_eq_none rfl, Position.ofObject]
  exact List.mem_cons_self

end Schema

end Conform
