import Conform.CommandLine
import Conform.Proofs.Compile.Raw
import Conform.Proofs.Validator.Reports

/-!
# Runs that validate documents

A run of `validate` reads the options and the schema, compiles the schema and goes through the
documents, and it ends at the first of these stages that fails (`Invocation.compiled_eq`,
`Invocation.run_validate_eq`). The documents are loaded one by one while the report is made, but a
report with a document missing is not shown: it counts that the document could not be loaded
(`validateFiles_of_unloadable`). If all of them can be, the report is what the documents by
themselves say (`validateFiles_of_loaded`).

Nothing is assumed of the `Libraries` that read the files and check the schema.
-/

set_option autoImplicit false

namespace Conform

/-- Whether something is found does not depend on how much is looked for. -/
theorem Validator.validateWith_eq_nil_iff (v : Validator) (abortEarly : Bool) (d : Json) :
    v.validateWith abortEarly d = [] ↔ v.isValid d = true := by
  cases abortEarly with
  | false => exact (v.isValid_iff d).symm
  | true => exact List.isEmpty_iff.symm

variable {v : Validator} {abortEarly : Bool} {paths : List String} {content : String → Json}

/-! ## Reports -/

/-- The report on documents of known content. -/
def Report.ofContent (v : Validator) (abortEarly : Bool) (content : String → Json)
    (paths : List String) : Report where
  total := paths.length
  passed := (paths.filter fun path => v.isValid (content path)).length
  failures := (paths.filter fun path => !v.isValid (content path)).map fun path =>
    (path, v.validateWith abortEarly (content path))

theorem Report.ofContent_cons (path : String) :
    ofContent v abortEarly content (path :: paths) =
      (ofContent v abortEarly content paths).add path
        (v.validateWith abortEarly (content path)) := by
  have hvalid := v.validateWith_eq_nil_iff abortEarly (content path)
  rw [← List.isEmpty_iff] at hvalid
  cases hv : v.isValid (content path) <;> simp [hv] at hvalid <;>
    simp [ofContent, add, hv, hvalid]

theorem Report.passed_add_length_failures :
    (ofContent v abortEarly content paths).passed +
      (ofContent v abortEarly content paths).failures.length = paths.length := by
  rw [ofContent, List.length_map, ← List.length_append]
  exact (List.filter_append_perm _ _).length_eq

/-- Whether there are failures does not depend on how much is looked for. -/
theorem Report.isEmpty_failures (other : Bool) :
    (ofContent v abortEarly content paths).failures.isEmpty =
      (ofContent v other content paths).failures.isEmpty := by
  rw [ofContent, ofContent, List.isEmpty_map, List.isEmpty_map]

/-! ## Loading -/

section

variable [Libraries] {files : Files}

theorem validateFiles_of_loaded
    (h : ∀ path ∈ paths, loadDocument files path = .ok (content path)) :
    validateFiles files v abortEarly paths = .ok (.ofContent v abortEarly content paths) := by
  induction paths with
  | nil => rfl
  | cons path paths ih =>
    obtain ⟨hpath, hpaths⟩ := List.forall_mem_cons.1 h
    rw [validateFiles, hpath, Report.ofContent_cons]
    simp only [ih hpaths]
    rfl

/-- The first document that cannot be loaded is the one that counts. -/
theorem validateFiles_of_unloadable {path : String} (hm : path ∈ paths) {e : LoadError}
    (he : loadDocument files path = .error e) :
    ∃ before first after reason, paths = before ++ first :: after ∧
      (∀ p ∈ before, ∃ d, loadDocument files p = .ok d) ∧
      loadDocument files first = .error reason ∧
      ∀ v abortEarly, validateFiles files v abortEarly paths = .error ⟨first, reason⟩ := by
  induction paths with
  | nil => cases hm
  | cons p paths ih =>
    cases hp : loadDocument files p with
    | error reason =>
      refine ⟨[], p, paths, reason, rfl, by simp, hp, fun v abortEarly => ?_⟩
      rw [validateFiles, hp]
    | ok d =>
      have hrest : path ∈ paths := by
        rcases List.mem_cons.1 hm with rfl | hm
        · rw [hp] at he
          cases he
        · exact hm
      obtain ⟨before, first, after, reason, rfl, hbefore, hfirst, herror⟩ := ih hrest
      refine ⟨p :: before, first, after, reason, rfl, ?_, hfirst, fun v abortEarly => ?_⟩
      · exact List.forall_mem_cons.2 ⟨⟨d, hp⟩, hbefore⟩
      · rw [validateFiles, hp]
        simp only [herror]
        rfl

theorem loaded_or_unloadable (files : Files) (paths : List String) :
    (∃ content : String → Json, ∀ path ∈ paths, loadDocument files path = .ok (content path)) ∨
      ∃ path ∈ paths, ∃ e, loadDocument files path = .error e := by
  by_cases h : ∃ path ∈ paths, ∃ e, loadDocument files path = .error e
  · exact .inr h
  · refine .inl ⟨fun path => (loadDocument files path).toOption.getD .null, fun path hm => ?_⟩
    cases hp : loadDocument files path with
    | error e => exact absurd ⟨path, hm, e, hp⟩ h
    | ok d =>
      show Except.ok d = .ok ((loadDocument files path).toOption.getD .null)
      rw [hp]
      rfl

end

/-! ## Runs -/

namespace Invocation

section

variable [Libraries] {files : Files} {config : Option String} {schema : String}
  {documents : List String}

/-- The stages of a run up to the documents. -/
theorem compiled_eq :
    compiled files config schema false =
      match optionsOf files config with
      | .error e => .error (.failed e)
      | .ok o =>
        match loadDocument files schema with
        | .error e => .error (.failed (.schema schema e))
        | .ok x => (compileValue Libraries.isSchema o x).mapError (.refused schema) := by
  have hsame : ∀ o : Options, { o with strict := o.strict || false } = o := fun o => by
    rw [Bool.or_false]
  simp only [compiled, hsame, bind, Except.bind]
  cases optionsOf files config with
  | error e => rfl
  | ok o => cases loadDocument files schema <;> rfl

/-- The documents are the last stage. -/
theorem run_validate_eq :
    run files ⟨config, .validate schema documents abortEarly⟩ =
      match compiled files config schema false with
      | .error outcome => outcome
      | .ok c =>
        match validateFiles files c.validator abortEarly documents with
        | .error e => .failed (.document e)
        | .ok r => ⟨if r.failures.isEmpty then 0 else 1, Outcome.lines r.lines, ""⟩ := by
  simp only [run, bind, Except.bind]
  cases compiled files config schema false with
  | error outcome => rfl
  | ok c =>
    dsimp only
    cases validateFiles files c.validator abortEarly documents <;> rfl

theorem compiled_of_loaded {o : Options} {x : Json} (ho : optionsOf files config = .ok o)
    (hx : loadDocument files schema = .ok x) :
    compiled files config schema false =
      (compileValue Libraries.isSchema o x).mapError (Outcome.refused schema) := by
  rw [compiled_eq, ho, hx]

/-- The exit code does not depend on how much is looked for in a document. -/
theorem code_run_validate (other : Bool) :
    (run files ⟨config, .validate schema documents other⟩).code =
      (run files ⟨config, .validate schema documents abortEarly⟩).code := by
  rw [run_validate_eq, run_validate_eq]
  cases compiled files config schema false with
  | error outcome => rfl
  | ok c =>
    dsimp only
    obtain ⟨content, hloaded⟩ | ⟨path, hm, e, he⟩ := loaded_or_unloadable files documents
    · rw [validateFiles_of_loaded hloaded, validateFiles_of_loaded hloaded]
      dsimp only
      rw [Report.isEmpty_failures abortEarly]
    · obtain ⟨_, _, _, _, -, -, -, herror⟩ := validateFiles_of_unloadable hm he
      rw [herror, herror]

/-- **The outcome of a run that validates documents.** Without options or a schema to go by the run
comes to no answer, and a schema that is refused decides it, whatever the documents are. After that
the first document that cannot be loaded ends the run and nothing is printed about the others. If
all of them can be, the run prints a report: every document in the list is counted, the failures are
those that are not valid, in the order of the list and each with the violations that it has by
itself, and the exit code tells whether there are any. This holds whatever reads the files and checks
the schema. -/
theorem run_validate (files : Files) (config : Option String) (schema : String)
    (documents : List String) (abortEarly : Bool) :
    (∀ e, optionsOf files config = .error e →
      run files ⟨config, .validate schema documents abortEarly⟩ =
        ⟨2, "", "ERROR: " ++ e.message ++ "\n"⟩) ∧
    (∀ o e, optionsOf files config = .ok o → loadDocument files schema = .error e →
      run files ⟨config, .validate schema documents abortEarly⟩ =
        ⟨2, "", "ERROR: " ++ (RunError.schema schema e).message ++ "\n"⟩) ∧
    (∀ o x, optionsOf files config = .ok o → loadDocument files schema = .ok x →
      (∀ e, compileValue Libraries.isSchema o x = .error e →
        run files ⟨config, .validate schema documents abortEarly⟩ =
          ⟨1, "", s!"FAIL: {schema}: {e.message}\n"⟩) ∧
      ∀ c, compileValue Libraries.isSchema o x = .ok c →
        (∀ path ∈ documents, ∀ e, loadDocument files path = .error e →
          ∃ before first after reason, documents = before ++ first :: after ∧
            (∀ p ∈ before, ∃ d, loadDocument files p = .ok d) ∧
            loadDocument files first = .error reason ∧
            run files ⟨config, .validate schema documents abortEarly⟩ =
              ⟨2, "", "ERROR: " ++ (RunError.document ⟨first, reason⟩).message ++ "\n"⟩) ∧
        ∀ content : String → Json,
          (∀ path ∈ documents, loadDocument files path = .ok (content path)) →
          ∃ r, validateFiles files c.validator abortEarly documents = .ok r ∧
            r.total = documents.length ∧ r.passed + r.failures.length = r.total ∧
            r.failures =
              (documents.filter fun path => !c.validator.isValid (content path)).map
                (fun path => (path, c.validator.validateWith abortEarly (content path))) ∧
            run files ⟨config, .validate schema documents abortEarly⟩ =
              ⟨if r.failures = [] then 0 else 1, Outcome.lines r.lines, ""⟩) ∧
    ∀ other, (run files ⟨config, .validate schema documents other⟩).code =
      (run files ⟨config, .validate schema documents abortEarly⟩).code := by
  refine ⟨fun e ho => ?_, fun o e ho hx => ?_, fun o x ho hx => ⟨fun e hc => ?_, fun c hc =>
    ⟨fun path hm e he => ?_, fun content hloaded => ?_⟩⟩, code_run_validate⟩
  · rw [run_validate_eq, compiled_eq, ho]
    rfl
  · rw [run_validate_eq, compiled_eq, ho, hx]
    rfl
  · rw [run_validate_eq, compiled_of_loaded ho hx, hc]
    rfl
  · obtain ⟨before, first, after, reason, hlist, hbefore, hfirst, herror⟩ :=
      validateFiles_of_unloadable hm he
    refine ⟨before, first, after, reason, hlist, hbefore, hfirst, ?_⟩
    rw [run_validate_eq, compiled_of_loaded ho hx, hc]
    dsimp only [Except.mapError]
    rw [herror]
    rfl
  · refine ⟨.ofContent c.validator abortEarly content documents, validateFiles_of_loaded hloaded,
      rfl, Report.passed_add_length_failures, rfl, ?_⟩
    rw [run_validate_eq, compiled_of_loaded ho hx, hc]
    dsimp only [Except.mapError]
    rw [validateFiles_of_loaded hloaded]
    simp only [List.isEmpty_iff]

end

/-- Files with a schema that asks for no more than an object, and one that is refused. -/
def shelf : Files := fun path =>
  List.lookup path
    [("any.json", "\x7b\x7d"), ("bad.json", "[]"), ("broken.json", "\x7b"),
      ("good.json", "\x7b\x7d"), ("odd.json", "\x7b\"type\":\x7b\x7d\x7d")]

theorem load_odd : loadDocument shelf "odd.json" = .ok (.obj [("type", .obj [])]) := by
  have hread : readDocument false "\x7b\"type\":\x7b\x7d\x7d" =
      .ok (.obj [("type", .obj [])]) := by cbv
  have hfile : shelf "odd.json" = some "\x7b\"type\":\x7b\x7d\x7d" := rfl
  have hjson : isYamlPath "odd.json" = false := rfl
  rw [loadDocument, hfile]
  dsimp only
  rw [hjson, hread]
  rfl

theorem compileValue_any :
    ∃ c, compileValue Libraries.isSchema .default (.obj []) = .ok c ∧
      c.validator = .object [] false false := by
  refine ⟨_, compileValue_of_lenient (s := Schema.empty) rfl rfl, ?_⟩
  refine (assemble_root _ Schema.sorted_empty).trans ?_
  simp [Plain.root, Plain.object, Plain.fields, Options.default, Schema.empty, Schema.normalize,
    Facets.empty, prune]

/-- A report with a document that is listed twice, a run that ends at a document behind one that is
not valid, a schema that is refused and one that is not there. -/
theorem run_validate_shelf :
    (∃ r : Report, r.total = 3 ∧ r.failures.map Prod.fst = ["bad.json", "bad.json"] ∧
      run shelf ⟨none, .validate "any.json" ["bad.json", "good.json", "bad.json"] false⟩ =
        ⟨1, Outcome.lines r.lines, ""⟩) ∧
    (∃ message, run shelf ⟨none, .validate "any.json" ["bad.json", "broken.json"] true⟩ =
      ⟨2, "", message⟩) ∧
    run shelf ⟨none, .validate "odd.json" ["broken.json"] false⟩ =
      ⟨1, "", "FAIL: odd.json: invalid schema\n"⟩ ∧
    run shelf ⟨none, .validate "none.json" ["bad.json"] false⟩ =
      ⟨2, "", "ERROR: failed to load schema none.json: cannot read none.json\n"⟩ := by
  obtain ⟨c, hc, hvalidator⟩ := compileValue_any
  have hcontent : ∀ path ∈ ["bad.json", "good.json", "bad.json"],
      loadDocument shelf path = .ok (if path = "good.json" then .obj [] else .arr []) := by
    simp only [List.mem_cons, List.not_mem_nil, or_false, forall_eq_or_imp, forall_eq]
    exact ⟨rfl, rfl, rfl⟩
  refine ⟨?_, ?_, ?_, ?_⟩
  · obtain ⟨-, -, hrun, -⟩ := run_validate shelf none "any.json"
      ["bad.json", "good.json", "bad.json"] false
    obtain ⟨r, -, htotal, -, hfailures, hrun⟩ := ((hrun .default _ rfl rfl).2 c hc).2 _ hcontent
    have hnames : r.failures.map Prod.fst = ["bad.json", "bad.json"] := by
      rw [hfailures, hvalidator]
      rfl
    have hne : r.failures ≠ [] := by
      intro h
      rw [h] at hnames
      cases hnames
    rw [if_neg hne] at hrun
    exact ⟨r, htotal, hnames, hrun⟩
  · obtain ⟨-, -, hrun, -⟩ := run_validate shelf none "any.json" ["bad.json", "broken.json"] true
    obtain ⟨_, _, _, _, -, -, -, hrun⟩ :=
      ((hrun .default _ rfl rfl).2 c hc).1 "broken.json" (by simp) _ rfl
    exact ⟨_, hrun⟩
  · obtain ⟨-, -, hrun, -⟩ := run_validate shelf none "odd.json" ["broken.json"] false
    exact (hrun .default _ rfl load_odd).1 .invalidSchema (compileValue_of_none rfl)
  · obtain ⟨-, hrun, -⟩ := run_validate shelf none "none.json" ["bad.json"] false
    exact hrun .default _ rfl rfl

end Invocation

end Conform
