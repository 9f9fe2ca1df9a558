import Conform.Proofs.Compile.Simulation
import Conform.Proofs.Compile.Warnings
import Conform.Proofs.Schema.Readable

/-!
# Compiling raw values

With lenient options a raw value is compiled exactly if it is grammatical (`compileValue_lenient`).
Strict options refuse more of them and change nothing else: what they accept is compiled as before,
and it is what reading and compiling without repair accept as well (`compileValue_strict`).

* `compile_lenient_eq`: whether options are strict makes no difference to `compile`.
* `compileValue_of_strict`: strict compiling is a filter behind lenient compiling.
-/

set_option autoImplicit false

namespace Conform

open Schema

variable {isSchema : Json → Bool} {o : Options} {x : Json} {c : Compilation}

/-- The same options, but not strict. -/
abbrev Options.lenient (o : Options) : Options := { o with strict := false }

/-- Whether options are strict is not noticed. -/
def Options.makingLenient (o : Options) : Simulation o o.lenient where
  onSchema s := s
  onField _ s := s
  keeps _ := true
  types := rfl
  custom := rfl
  blackList _ := by simp
  facets s := ⟨s.facets.extra, by rw [map_filter_true]⟩
  properties s := by
    cases s.properties with
    | none => rfl
    | some ps => simp
  items s := by cases s.items <;> rfl
  allOf _ := rfl
  field _ _ _ := rfl
  normalize _ _ := rfl

theorem compile_lenient_eq {s : Schema} (hs : s.Sorted) : compile o.lenient s = compile o s :=
  o.makingLenient.compile_eq hs

/-- What cannot be read is refused. -/
theorem compileValue_of_none (hs : ofJson? (repair .root x).1 = none) :
    compileValue isSchema o x = .error .invalidSchema := by
  simp only [compileValue, hs, ite_self]

/-- All warnings about a raw value: those about its repair, then those about what is read. -/
def allWarnings (o : Options) (x : Json) (s : Schema) : List Warning :=
  (repair .root x).2 ++ (compile o s).warnings

theorem compileValue_of_some {s : Schema} (hs : ofJson? (repair .root x).1 = some s) :
    compileValue isSchema o x =
      if o.strict && !isSchema x then .error .invalidSchema
      else if o.strict && !(allWarnings o x s).isEmpty then .error (.degraded (allWarnings o x s))
      else .ok ⟨(compile o s).validator, allWarnings o x s⟩ := by
  simp only [compileValue, hs, allWarnings]
  rfl

/-! ## Lenient options -/

theorem compileValue_of_lenient (ho : o.strict = false) {s : Schema}
    (hs : ofJson? (repair .root x).1 = some s) :
    compileValue isSchema o x = .ok ⟨(compile o s).validator, allWarnings o x s⟩ := by
  rw [compileValue_of_some hs, ho]
  rfl

/-- **The raw values that are compiled** by lenient options: at every place in them the keywords
have the forms that they call for. All others are no schemas. -/
theorem compileValue_lenient (isSchema : Json → Bool) (ho : o.strict = false) (hx : x.Sorted) :
    ((∃ c, compileValue isSchema o x = .ok c) ↔ x.Grammatical) ∧
      (¬ x.Grammatical → compileValue isSchema o x = .error .invalidSchema) := by
  rw [← isSome_ofJson?_repair_iff hx .root]
  cases hs : ofJson? (repair .root x).1 with
  | none =>
    rw [compileValue_of_none hs]
    exact ⟨by simp, fun _ => rfl⟩
  | some s =>
    rw [compileValue_of_lenient ho hs]
    exact ⟨by simp, fun h => absurd rfl h⟩

/-- Lists whose items ask for a name, but not by a list of names. -/
def Schema.misread : Json :=
  .obj [("items", .obj [("allOf", .arr [.obj [("required", .str "name")]])])]

theorem Schema.sorted_misread : misread.Sorted := by
  simp only [misread, Json.sorted_obj_iff, Json.sorted_arr_iff, List.forall_mem_singleton,
    Json.Sorted.str, and_true]
  decide

theorem Schema.not_grammatical_misread : ¬ misread.Grammatical := by
  intro h
  have hform := h [.items, .entry 0] [("required", .str "name")] rfl "required" _ rfl
  simp [Json.HasForm, Json.strs] at hform

/-- Booleans in the place of schemas do no harm, and a bound may be null. -/
theorem compileValue_lenient_untidy :
    untidy.Sorted ∧ untidy.Grammatical ∧ misread.Sorted ∧
    compileValue (fun _ => false) .default misread = .error .invalidSchema := by
  have huntidy := compileValue_lenient (fun _ => false) (o := .default) rfl sorted_untidy
  have hmisread := compileValue_lenient (fun _ => false) (o := .default) rfl sorted_misread
  exact ⟨sorted_untidy, huntidy.1.1 ⟨_, compileValue_of_lenient rfl rfl⟩, sorted_misread,
    hmisread.2 not_grammatical_misread⟩

/-- **The raw and the typed way agree** on a value that can be read as it is and in which null is
nowhere the schema of items. The validator is the same, and to the warnings come those about bounds
that are null, one for each, in front. -/
theorem compileValue_readable (isSchema : Json → Bool) (ho : o.strict = false) (hx : x.Sorted)
    {s : Schema} (hs : ofJson? x = some s)
    (hitems : ∀ p v, Json.at? p x = some v → v.get? "items" ≠ some .null) :
    ∃ bounds : List (Json.Place × String), bounds.Nodup ∧
      (∀ b, b ∈ bounds ↔
        b.2 ∈ boundKeywords ∧ ∃ v, Json.at? b.1 x = some v ∧ v.get? b.2 = some .null) ∧
      compileValue isSchema o x = .ok
        ⟨(compile o s).validator,
          (bounds.map fun b => ⟨b.1.path, .coercedBound b.2 "null" none⟩) ++
            (compile o s).warnings⟩ := by
  have hreadable : x.Readable := ⟨Option.isSome_of_eq_some hs, hitems⟩
  have hrepaired : ofJson? (repair .root x).1 = some s :=
    (hreadable.ofJson?_repair hx .root).trans hs
  obtain ⟨bounds, hnodup, hmem, hwarnings⟩ := hreadable.exists_nullBounds hx .root
  refine ⟨bounds, hnodup, hmem, ?_⟩
  rw [compileValue_of_lenient ho hrepaired, allWarnings, hwarnings]
  rfl

/-- Codes, with bounds that are null. -/
def Schema.loose : Json :=
  .obj
    [("maxItems", .null),
      ("properties", .obj [("code", .obj [("minLength", .null), ("type", .str "string")])])]

theorem Schema.sorted_loose : loose.Sorted := by
  simp only [loose, Json.sorted_obj_iff, List.forall_mem_cons, List.not_mem_nil, false_implies,
    implies_true, Json.Sorted.null, Json.Sorted.str, and_true, true_and]
  decide

theorem Schema.items_loose (p : Json.Place) (v : Json) (h : Json.at? p loose = some v) :
    v.get? "items" ≠ some .null := by
  match p with
  | [] =>
    cases h
    show (none : Option Json) ≠ _
    simp
  | s :: p =>
    obtain ⟨w, hw, h⟩ := Option.bind_eq_some_iff.1 h
    have hcode : (s, w) ∈
        [(.property "code", .obj [("minLength", .null), ("type", .str "string")])] :=
      Json.mem_steps_of_step? hw
    cases List.mem_singleton.1 hcode
    match p with
    | [] =>
      cases h
      show (none : Option Json) ≠ _
      simp
    | t :: p =>
      obtain ⟨u, hu, -⟩ := Option.bind_eq_some_iff.1 h
      cases Json.mem_steps_of_step? hu

theorem compileValue_readable_loose :
    Options.default.strict = false ∧ loose.Sorted ∧
    ofJson? loose = some { empty with properties := some [("code", ofType "string")] } ∧
    (∀ p v, Json.at? p loose = some v → v.get? "items" ≠ some .null) ∧
    ∃ bounds : List (Json.Place × String), ([], "maxItems") ∈ bounds ∧
      ([.property "code"], "minLength") ∈ bounds ∧
      compileValue (fun _ => false) .default loose = .ok
        ⟨(compile .default
            { empty with properties := some [("code", ofType "string")] }).validator,
          (bounds.map fun b => ⟨b.1.path, .coercedBound b.2 "null" none⟩) ++
            (compile .default
              { empty with properties := some [("code", ofType "string")] }).warnings⟩ := by
  obtain ⟨bounds, -, hmem, hcompile⟩ :=
    compileValue_readable (fun _ => false) (o := .default) rfl sorted_loose rfl items_loose
  refine ⟨rfl, sorted_loose, rfl, items_loose, bounds, (hmem _).2 ?_, (hmem _).2 ?_, hcompile⟩
  · exact ⟨by decide, _, rfl, rfl⟩
  · exact ⟨by decide, _, rfl, rfl⟩

/-! ## Strict options -/

/-- **Strict compiling is a filter** behind lenient compiling, of values that are schemas and of
compilations without warnings. -/
theorem compileValue_of_strict (ho : o.strict = true) (hx : x.Sorted) :
    compileValue isSchema o x =
      if isSchema x then
        match compileValue isSchema o.lenient x with
        | .ok c => if c.warnings = [] then .ok c else .error (.degraded c.warnings)
        | .error e => .error e
      else .error .invalidSchema := by
  cases hs : ofJson? (repair .root x).1 with
  | none =>
    rw [compileValue_of_none hs, compileValue_of_none hs]
    exact (ite_self _).symm
  | some s =>
    have hsorted : s.Sorted := sorted_ofJson? _ (sorted_repair hx .root) hs
    have hsame : allWarnings o.lenient x s = allWarnings o x s := by
      rw [allWarnings, allWarnings, compile_lenient_eq hsorted]
    rw [compileValue_of_some hs, compileValue_of_lenient rfl hs, hsame, compile_lenient_eq hsorted,
      ho]
    cases isSchema x with
    | false => rfl
    | true => cases allWarnings o x s <;> rfl

theorem compileStrict_eq_ok_iff {s : Schema} {v : Validator} :
    compileStrict o s = .ok v ↔ (compile o s).warnings = [] ∧ (compile o s).validator = v := by
  rw [compileStrict]
  cases (compile o s).warnings <;> simp

/-- What strict options accept needs no repair and compiles without warnings. -/
theorem compileValue_strict_ok_iff (ho : o.strict = true) (hx : x.Sorted) :
    compileValue isSchema o x = .ok c ↔
      isSchema x = true ∧ (repair .root x).1 = x ∧
        ∃ s v, ofJson? x = some s ∧ compileStrict o s = .ok v ∧ c = ⟨v, []⟩ := by
  cases hs : ofJson? (repair .root x).1 with
  | none =>
    rw [compileValue_of_none hs]
    refine iff_of_false (by simp) ?_
    rintro ⟨-, hrepair, s, v, hx', -⟩
    rw [hrepair, hx'] at hs
    cases hs
  | some s =>
    have hok : compileValue isSchema o x = .ok c ↔
        isSchema x = true ∧ allWarnings o x s = [] ∧ c = ⟨(compile o s).validator, []⟩ := by
      rw [compileValue_of_some hs, ho]
      cases isSchema x <;> cases allWarnings o x s <;> simp [eq_comm]
    -- nothing is reported about the repair exactly if the value stays
    rw [hok, allWarnings, List.append_eq_nil_iff, snd_repair_eq_nil_iff hx, and_assoc]
    refine and_congr_right fun _ => and_congr_right fun hrepair => ?_
    rw [hrepair] at hs
    constructor
    · rintro ⟨hclean, rfl⟩
      exact ⟨s, _, hs, compileStrict_eq_ok_iff.2 ⟨hclean, rfl⟩, rfl⟩
    · rintro ⟨t, v, ht, hv, rfl⟩
      cases hs.symm.trans ht
      obtain ⟨hclean, rfl⟩ := compileStrict_eq_ok_iff.1 hv
      exact ⟨hclean, rfl⟩

/-- Lenient options accept a value or refuse it as no schema. -/
theorem compileValue_lenient_cases (isSchema : Json → Bool) (o : Options) (x : Json) :
    compileValue isSchema o.lenient x = .error .invalidSchema ∨
      ∃ d, compileValue isSchema o.lenient x = .ok d := by
  cases hs : ofJson? (repair .root x).1 with
  | none => exact .inl (compileValue_of_none hs)
  | some s => exact .inr ⟨_, compileValue_of_lenient rfl hs⟩

/-- **What strict options accept.** They accept a value that is a schema, needs no repair and, once
it is read, is compiled by `compileStrict`. The result is that of `compileStrict`, without warnings,
and lenient options give it as well. A schema that lenient options compile with warnings is refused
with these warnings, and everything else as no schema. -/
theorem compileValue_strict (isSchema : Json → Bool) (ho : o.strict = true) (hx : x.Sorted) :
    (∀ c, compileValue isSchema o x = .ok c ↔
      isSchema x = true ∧ (repair .root x).1 = x ∧
        ∃ s v, ofJson? x = some s ∧ compileStrict o s = .ok v ∧ c = ⟨v, []⟩) ∧
    (∀ c, compileValue isSchema o x = .ok c → compileValue isSchema o.lenient x = .ok c) ∧
    (∀ ws, compileValue isSchema o x = .error (.degraded ws) ↔
      isSchema x = true ∧ ws ≠ [] ∧
        ∃ d, compileValue isSchema o.lenient x = .ok d ∧ d.warnings = ws) ∧
    (compileValue isSchema o x = .error .invalidSchema ↔
      ¬ (isSchema x = true ∧ ∃ d, compileValue isSchema o.lenient x = .ok d)) := by
  refine ⟨fun c => compileValue_strict_ok_iff ho hx, ?_⟩
  rw [compileValue_of_strict ho hx]
  cases isSchema x with
  | false => simp
  | true =>
    obtain hr | ⟨d, hr⟩ := compileValue_lenient_cases isSchema o x
    · rw [hr]
      simp
    · rw [hr]
      by_cases hd : d.warnings = []
      · simp [hd]
      · simp [hd]

/-- A note. -/
def Schema.noted : Json :=
  .obj [("properties", .obj [("note", .obj [("type", .str "string")])])]

theorem Schema.sorted_noted : noted.Sorted := by
  simp only [noted, Json.sorted_obj_iff, List.forall_mem_singleton, Json.Sorted.str, and_true]
  decide

/-- The default options, but strict. -/
def Options.strictDefault : Options := { Options.default with strict := true }

theorem compileStrict_noted :
    compileStrict .strictDefault { empty with properties := some [("note", ofType "string")] } =
      .ok (.object [("note", .scalar (Scalar.of .string).allowNull)] false false) := by
  have hsorted : ({ empty with properties := some [("note", ofType "string")] } : Schema).Sorted :=
    .of_parts (fun ps hp => by cases hp; exact ⟨by decide, by simp [sorted_ofType]⟩)
      (by simp [empty]) (by simp [empty])
  refine compileStrict_eq_ok_iff.2 ⟨List.perm_nil.1 ((Build.warnings_root _ _).trans (.of_eq ?_)),
    (assemble_root _ hsorted).trans ?_⟩
  · simp [Position.dueRoot, Position.ofRoot, Position.ofObject, Position.ofFields,
      Position.ofField, Position.ofTyped, Position.reports, Options.strictDefault,
      Options.default, ofType, empty, Schema.normalize, typeName?, Facets.empty,
      TypeDecl.primary?, prune, KeyMap.keys, standardTypes, TypeRegistry.default, List.lookup_cons]
  · simp [Plain.root, Plain.object, Plain.fields, Plain.field, Plain.typed, Plain.leaf_eq,
      Options.strictDefault, Options.default, ofType, empty, Schema.normalize, typeName?,
      Facets.empty, TypeDecl.primary?, prune]
    rfl

/-- A note is accepted, the untidy value is refused with warnings and the misread one without. -/
theorem compileValue_strict_noted :
    Options.strictDefault.strict = true ∧ noted.Sorted ∧ untidy.Sorted ∧ misread.Sorted ∧
    compileValue (fun _ => true) .strictDefault noted =
      .ok ⟨.object [("note", .scalar (Scalar.of .string).allowNull)] false false, []⟩ ∧
    (∃ ws, ws ≠ [] ∧ compileValue (fun _ => true) .strictDefault untidy = .error (.degraded ws)) ∧
    compileValue (fun _ => true) .strictDefault misread = .error .invalidSchema := by
  have hnoted := compileValue_strict (fun _ => true) (o := .strictDefault) rfl sorted_noted
  have huntidy := compileValue_strict (fun _ => true) (o := .strictDefault) rfl sorted_untidy
  have hmisread := compileValue_strict (fun _ => true) (o := .strictDefault) rfl sorted_misread
  refine ⟨rfl, sorted_noted, sorted_untidy, sorted_misread,
    (hnoted.1 _).2 ⟨rfl, rfl, _, _, rfl, compileStrict_noted, rfl⟩, ?_, hmisread.2.2.2.2 ?_⟩
  · have hlenient : compileValue (fun _ => true) Options.strictDefault.lenient untidy = .ok _ :=
      compileValue_of_lenient rfl rfl
    have hws : ∀ s, allWarnings Options.strictDefault.lenient untidy s ≠ [] := by
      intro s
      rw [allWarnings, repair_untidy]
      simp
    exact ⟨_, hws _, (huntidy.2.2.1 _).2 ⟨rfl, hws _, _, hlenient, rfl⟩⟩
  · rintro ⟨-, d, hd⟩
    rw [compileValue_of_none rfl] at hd
    cases hd

end Conform
