import Conform.Proofs.Compile.Arena

/-!
# What a compilation reports

`Position.ofRoot` lists the positions of a schema that are compiled, by a recursion on the schema
alone, and `Position.reports` says what is to be reported at each of them. A compilation reports
that and nothing else, each warning as often as it is due, although it takes the positions in the
order of its stack: between two turns, what has been reported and what is due at and below the
waiting maps always add up to the same warnings (`Build.total`). What a step does to the warnings,
the required paths and the stack is said once, by `Build.Takes`.

* `fields_takes`, `start_takes`: what compiling fields does, and what a compilation starts from.
* `warnings_compile`: the warnings of a compilation, and when a strict one succeeds.
-/

set_option autoImplicit false

namespace Conform

/-! ## Positions -/

/-- A compiled position: the object over a map of properties, with its list `required`, or a
position whose type decides. -/
inductive Position
  | object (path : Path) (properties : List (String × Schema)) (names : List String)
  | typed (path : Path) (s : Schema)

namespace Position

/-- The path of a position. -/
def path : Position → Path
  | object path _ _ => path
  | typed path _ => path

variable (o : Options)

/-- What is reported at a position: each required name that is no property, unless it is
blacklisted; a list without items, an object without properties, and a type that is not known. -/
def reports : Position → List Warning
  | object path properties names =>
    (names.filter fun name =>
      !(KeyMap.keys properties).contains name && !o.blackList.contains name).map fun name =>
        ⟨path, .unresolvedRequired name⟩
  | typed path s =>
    (if s.typeName? = some "array" ∧ s.items.isNone then [⟨path, .arrayWithoutItems⟩] else []) ++
    (if s.typeName? = some "object" ∧ s.properties.isNone then [⟨path, .objectWithoutProperties⟩]
      else []) ++
    (s.typeName?.toList.filter fun name =>
      (o.types.lookup name).isNone && !standardTypes.contains name).map fun name =>
        ⟨path, .unknownType name⟩

/-- The paths that a position makes required: those of the required names that are properties. -/
def required : Position → List Path
  | object path properties names =>
    (resolve path (KeyMap.keys (prune o.blackList properties)) names).resolved
  | typed _ _ => []

mutual

/-- The object over a map of properties, and what is below it. -/
def ofObject (path : Path) (properties : Option (List (String × Schema)))
    (names : Option (List String)) : List Position :=
  .object path (properties.getD []) (names.getD []) ::
    ofFields path (prune o.blackList (properties.getD []))
termination_by (Schema.sizeProperties properties, 3)
decreasing_by
  have h := Schema.sizeNamed_prune_getD_le o.blackList properties
  simp only [Prod.lex_def]
  omega

/-- The properties of an object. -/
def ofFields (path : Path) : List (String × Schema) → List Position
  | [] => []
  | (name, s) :: ps => ofField (path.child name) name s ++ ofFields path ps
termination_by ps => (Schema.sizeNamed ps, 2)
decreasing_by
  all_goals
    have h := Schema.size_pos s
    simp only [Schema.sizeNamed, Prod.lex_def]
    omega

/-- A property, which is not compiled at all if there is a validator for its name. -/
def ofField (path : Path) (name : String) (s : Schema) : List Position :=
  match o.custom.lookup name with
  | some _ => []
  | none =>
    if s.allOf.isSome then ofObject path s.normalize.properties s.normalize.facets.required
    else ofTyped path s
termination_by (s.size, 1)
decreasing_by
  · have h := Schema.sizeProperties_normalize_lt s
    simp only [Prod.lex_def]
    omega
  · exact .right _ (by omega)

/-- A position whose type decides: an object with properties is one over a map. -/
def ofTyped (path : Path) (s : Schema) : List Position :=
  if s.typeName? = some "array" then
    match _h : s.items with
    | some i => .typed path s :: ofItem path.items i
    | none => [.typed path s]
  else if s.typeName? = some "object" then
    match _h : s.properties with
    | some ps => ofObject path (some ps) s.facets.required
    | none => [.typed path s]
  else [.typed path s]
termination_by (s.size, 0)
decreasing_by
  · have h := Schema.size_lt_of_items _h
    simp only [Prod.lex_def]
    omega
  · have h := Schema.sizeNamed_lt_of_properties _h
    simp only [Schema.sizeProperties, Prod.lex_def]
    omega

/-- The items of a list. -/
def ofItem (path : Path) (i : Schema) : List Position :=
  if i.normalize.isObjectItem then
    ofObject path i.normalize.properties i.normalize.facets.required
  else ofTyped path i.normalize
termination_by (i.size, 1)
decreasing_by
  · have h := Schema.sizeProperties_normalize_lt i
    simp only [Prod.lex_def]
    omega
  · have h := Schema.size_normalize_le i
    simp only [Prod.lex_def]
    omega

end

/-- The positions of a whole schema. -/
def ofRoot (s : Schema) : List Position :=
  ofObject o .root s.normalize.properties s.normalize.facets.required

/-- All that is to be reported about a schema: the root is an object over a map even if it has no
properties, which is a warning of its own. -/
def dueRoot (s : Schema) : List Warning :=
  (if s.normalize.properties.isNone then [⟨.root, .objectWithoutProperties⟩] else []) ++
    (ofRoot o s).flatMap (reports o)

/-- The warnings of some positions. -/
abbrev due (ps : List Position) : List Warning := ps.flatMap (reports o)

/-- The required paths of some positions. -/
abbrev asked (ps : List Position) : List Path := ps.flatMap (required o)

/-! ## Equations -/

variable {o} {path : Path} {s : Schema}

theorem ofTyped_of_items (ht : s.typeName? = some "array") {i : Schema} (hi : s.items = some i) :
    ofTyped o path s = .typed path s :: ofItem o path.items i := by
  rw [ofTyped, if_pos ht]
  split
  · rename_i j hj
    rw [hi] at hj
    cases hj
    rfl
  · rename_i hn
    rw [hi] at hn
    cases hn

theorem ofTyped_of_no_items (ht : s.typeName? = some "array") (hi : s.items = none) :
    ofTyped o path s = [.typed path s] := by
  rw [ofTyped, if_pos ht]
  split
  · rename_i j hj
    rw [hi] at hj
    cases hj
  · rfl

theorem ofTyped_of_properties (ht : s.typeName? = some "object") {ps : List (String × Schema)}
    (hp : s.properties = some ps) :
    ofTyped o path s = ofObject o path (some ps) s.facets.required := by
  rw [ofTyped, if_neg (by simp [ht]), if_pos ht]
  split
  · rename_i qs hq
    rw [hp] at hq
    cases hq
    rfl
  · rename_i hn
    rw [hp] at hn
    cases hn

theorem ofTyped_of_no_properties (ht : s.typeName? = some "object") (hp : s.properties = none) :
    ofTyped o path s = [.typed path s] := by
  rw [ofTyped, if_neg (by simp [ht]), if_pos ht]
  split
  · rename_i qs hq
    rw [hp] at hq
    cases hq
  · rfl

/-! ## Leaves and maps -/

theorem contains_keys_prune {name : String} (h : name ∉ o.blackList)
    (ps : List (String × Schema)) :
    (KeyMap.keys (prune o.blackList ps)).contains name = (KeyMap.keys ps).contains name := by
  rw [Bool.eq_iff_iff]
  simp only [List.contains_iff_mem, KeyMap.mem_keys, prune, List.mem_filter]
  constructor
  · rintro ⟨s, hs, -⟩
    exact ⟨s, hs⟩
  · rintro ⟨s, hs⟩
    exact ⟨s, hs, by simpa using h⟩

/-- The names that a scheduled map reports are those that its position reports. -/
theorem reports_object (path : Path) (ps : List (String × Schema)) (names : List String) :
    reports o (.object path ps names) =
      (((resolve path (KeyMap.keys (prune o.blackList ps)) names).unresolved.filter
        fun name => !o.blackList.contains name).map .unresolvedRequired).map (⟨path, ·⟩) := by
  simp only [reports, resolve, List.filter_filter, List.map_map]
  have hf : names.filter (fun name =>
      !(KeyMap.keys ps).contains name && !o.blackList.contains name) =
    names.filter fun name => !o.blackList.contains name &&
      !(KeyMap.keys (prune o.blackList ps)).contains name := by
    refine List.filter_congr fun name _ => ?_
    by_cases hb : name ∈ o.blackList
    · simp [hb]
    · rw [contains_keys_prune hb, Bool.and_comm]
  rw [hf]
  rfl

theorem reports_array (path : Path) {s : Schema} (ht : s.typeName? = some "array") :
    reports o (.typed path s) = if s.items.isNone then [⟨path, .arrayWithoutItems⟩] else [] := by
  simp [reports, ht, standardTypes]

theorem reports_typed_object (path : Path) {s : Schema} (ht : s.typeName? = some "object")
    (hp : s.properties = none) :
    reports o (.typed path s) = [⟨path, .objectWithoutProperties⟩] := by
  simp [reports, ht, hp, standardTypes]

theorem reports_other (path : Path) {s : Schema} (ha : s.typeName? ≠ some "array")
    (ht : s.typeName? ≠ some "object") :
    reports o (.typed path s) = (o.leafWarnings s).map (⟨path, ·⟩) := by
  simp only [reports, Options.leafWarnings, if_neg (fun h => ha (And.left h)),
    if_neg (fun h => ht (And.left h)), List.nil_append]
  cases s.typeName? with
  | none => rfl
  | some name =>
    by_cases hs : name ∈ standardTypes <;> cases hn : o.types.lookup name <;> simp [hs, hn]

/-- Standard types are known. -/
theorem leafWarnings_standard {s : Schema} {name : String} (ht : s.typeName? = some name)
    (hn : standardTypes.contains name = true) : o.leafWarnings s = [] := by
  simp only [Options.leafWarnings, ht, hn, Bool.or_true, if_true]

/-! ## Where positions are -/

/-- Every field on the path is compiled: it is not blacklisted, and there is no validator for its
name. -/
def Visible (o : Options) (path : Path) : Prop :=
  ∀ name, .field name ∈ path → name ∉ o.blackList ∧ o.custom.lookup name = none

theorem Visible.child {name : String} (h : Visible o path) (hb : name ∉ o.blackList)
    (hc : o.custom.lookup name = none) : Visible o (path.child name) := by
  intro other ho
  rcases List.mem_append.1 ho with ho | ho
  · exact h other ho
  · cases List.mem_singleton.1 ho
    exact ⟨hb, hc⟩

theorem Visible.items (h : Visible o path) : Visible o path.items := by
  intro other ho
  rcases List.mem_append.1 ho with ho | ho
  · exact h other ho
  · cases List.mem_singleton.1 ho

/-- What is compiled below a visible path is visible. -/
theorem visible_ofObject (ps : Option (List (String × Schema))) (names : Option (List String))
    (h : Visible o path) : ∀ p ∈ ofObject o path ps names, Visible o p.path := by
  have single : ∀ path s, Visible o path → ∀ p ∈ [typed path s], Visible o p.path := by
    intro path s h p hp
    cases List.mem_singleton.1 hp
    exact h
  refine (Position.ofObject.mutual_induct o
    (fun path ps names => Visible o path → ∀ p ∈ ofObject o path ps names, Visible o p.path)
    (fun path ps => Visible o path → (∀ f ∈ ps, f.1 ∉ o.blackList) →
      ∀ p ∈ ofFields o path ps, Visible o p.path)
    (fun path name s => (o.custom.lookup name = none → Visible o path) →
      ∀ p ∈ ofField o path name s, Visible o p.path)
    (fun path s => Visible o path → ∀ p ∈ ofTyped o path s, Visible o p.path)
    (fun path i => Visible o path → ∀ p ∈ ofItem o path i, Visible o p.path)
    ?_ ?_ ?_ ?_ ?_ ?_ ?_ ?_ ?_ ?_ ?_ ?_ ?_).1 path ps names h
  · intro path ps names ih h p hp
    rw [ofObject] at hp
    rcases List.mem_cons.1 hp with rfl | hp
    · exact h
    · refine ih h (fun f hf => ?_) p hp
      simpa using (List.mem_filter.1 hf).2
  · intro path _ _ p hp
    rw [ofFields] at hp
    cases hp
  · intro path name s ps ihs ihps h hb p hp
    rw [ofFields] at hp
    rcases List.mem_append.1 hp with hp | hp
    · exact ihs (h.child (hb _ List.mem_cons_self)) p hp
    · exact ihps h (fun f hf => hb f (List.mem_cons_of_mem _ hf)) p hp
  · intro path name s v hv _ p hp
    rw [ofField, hv] at hp
    cases hp
  · intro path name s hc ha ih h
    rw [ofField, hc]
    simp only [if_pos ha]
    exact ih (h hc)
  · intro path name s hc ha ih h
    rw [ofField, hc]
    simp only [if_neg ha]
    exact ih (h hc)
  · intro path s ht i hi ih h p hp
    rw [ofTyped_of_items ht hi] at hp
    rcases List.mem_cons.1 hp with rfl | hp
    · exact h
    · exact ih h.items p hp
  · intro path s ht hi h
    rw [ofTyped_of_no_items ht hi]
    exact single path s h
  · intro path s _ ht ps hp ih h
    rw [ofTyped_of_properties ht hp]
    exact ih h
  · intro path s _ ht hp h
    rw [ofTyped_of_no_properties ht hp]
    exact single path s h
  · intro path s ha ht h
    rw [ofTyped, if_neg ha, if_neg ht]
    exact single path s h
  · intro path i hi ih h
    rw [ofItem, if_pos hi]
    exact ih h
  · intro path i hi ih h
    rw [ofItem, if_neg hi]
    exact ih h

theorem path_of_mem_reports {p : Position} {w : Warning} (hw : w ∈ reports o p) :
    w.path = p.path := by
  cases p with
  | object path ps names =>
    obtain ⟨name, -, rfl⟩ := List.mem_map.1 hw
    rfl
  | typed path s =>
    simp only [reports, List.mem_append, List.mem_map] at hw
    rcases hw with (hw | hw) | ⟨name, -, rfl⟩
    · split at hw <;> simp at hw
      rw [hw]
      rfl
    · split at hw <;> simp at hw
      rw [hw]
      rfl
    · rfl

theorem visible_dueRoot {w : Warning} (hw : w ∈ dueRoot o s) : Visible o w.path := by
  have hroot : Visible o .root := by
    intro name hn
    cases hn
  rcases List.mem_append.1 hw with hw | hw
  · split at hw <;> simp at hw
    rw [hw]
    exact hroot
  · obtain ⟨p, hp, hw⟩ := List.mem_flatMap.1 hw
    rw [path_of_mem_reports hw]
    exact visible_ofObject _ _ hroot p hp

end Position

/-! ## Turns -/

namespace Build

open Position

variable {o : Options}

/-- What has been reported, and what is due at and below the waiting maps. -/
def total (o : Options) (b : Build) : List Warning :=
  b.warnings.toList ++ b.stack.flatMap fun q => due o (ofFields o q.path q.fields)

/-- Compiling a position adds what is due at and below it. -/
def Owes (o : Options) (b c : Build) (ps : List Position) : Prop :=
  (total o c).Perm (total o b ++ due o ps)

/-- Compiling the positions `ps` took some of them, reported on these and made their paths required,
and put maps on the stack that have the others below them. -/
structure Takes (o : Options) (b c : Build) (ps taken : List Position) (waiting : List Pending) :
    Prop where
  warnings : c.warnings.toList = b.warnings.toList ++ due o taken
  required : c.required = b.required.insertAll (asked o taken)
  stack : c.stack = waiting ++ b.stack
  positions : ps.Perm (taken ++ waiting.flatMap fun q => ofFields o q.path q.fields)

theorem Takes.nil (b : Build) : Takes o b b [] [] [] :=
  ⟨(List.append_nil _).symm, rfl, rfl, .nil⟩

/-- One compilation after the other. -/
theorem Takes.trans {b c d : Build} {ps qs taken more : List Position}
    {waiting later : List Pending} (h : Takes o b c ps taken waiting)
    (h' : Takes o c d qs more later) :
    Takes o b d (ps ++ qs) (taken ++ more) (later ++ waiting) := by
  refine ⟨?_, ?_, ?_, ?_⟩
  · rw [h'.warnings, h.warnings, due, due, due, List.flatMap_append, List.append_assoc]
  · rw [h'.required, h.required, asked, asked, asked, List.flatMap_append,
      RequiredSet.insertAll_append]
  · rw [h'.stack, h.stack, List.append_assoc]
  · refine (h.positions.append h'.positions).trans ?_
    rw [List.flatMap_append, List.append_assoc, List.append_assoc, ← List.append_assoc more]
    exact List.perm_append_comm.append_left taken

/-- What is due has been reported or is below waiting maps. -/
theorem Takes.owes {b c : Build} {ps taken : List Position} {waiting : List Pending}
    (h : Takes o b c ps taken waiting) : Owes o b c ps := by
  have hdue : (due o ps).Perm (due o taken ++
      waiting.flatMap fun q => due o (ofFields o q.path q.fields)) := by
    have hp := h.positions.flatMap_right (reports o)
    rwa [List.flatMap_append, List.flatMap_assoc] at hp
  rw [Owes, total, total, h.warnings, h.stack, List.flatMap_append]
  refine List.perm_iff_count.2 fun w => ?_
  have hw := hdue.count_eq w
  simp only [List.count_append] at hw ⊢
  omega

theorem schedule_takes (path : Path) (ps : Option (List (String × Schema)))
    (names : Option (List String)) (required : Bool) (b : Build) :
    ∃ taken waiting, Takes o b (schedule o path ps names required b).2 (ofObject o path ps names)
      taken waiting := by
  refine ⟨[.object path (ps.getD []) (names.getD [])], [_], ?_, ?_,
    stack_schedule o path ps names required b, ?_⟩
  · rw [due, List.flatMap_singleton, reports_object]
    simp [schedule, alloc, warnAll_eq]
  · rw [asked, List.flatMap_singleton]
    simp [schedule, alloc, warnAll_eq, Position.required]
  · rw [ofObject, List.flatMap_singleton]
    exact .refl _

/-- A leaf, after the warnings `ks` at its path. -/
theorem leaf_takes (path : Path) (s : Schema) (b : Build) (ks : List WarningKind)
    (hs : reports o (.typed path s) = (ks ++ o.leafWarnings s).map (⟨path, ·⟩)) :
    ∃ taken waiting, Takes o b (leaf o path s (b.warnAll path ks)).2 [.typed path s] taken
      waiting := by
  refine ⟨[.typed path s], [], ?_, ?_, ?_, .refl _⟩
  · rw [due, List.flatMap_singleton, hs]
    simp [leaf, alloc, warnAll_eq]
  · simp [leaf, alloc, warnAll_eq, asked, Position.required, RequiredSet.insertAll]
  · rw [stack_leaf, stack_warnAll, List.nil_append]

theorem typed_takes (path : Path) (s : Schema) (b : Build) :
    ∃ taken waiting, Takes o b (typed o path s b).2 (ofTyped o path s) taken waiting := by
  fun_induction typed o path s b with
  | case1 path s b ht i hi n list element ih =>
    have hel : ∃ taken waiting, Takes o list.2 element.2 (ofItem o path.items i) taken waiting := by
      rw [ofItem]
      by_cases hob : n.isObjectItem = true
      · have he : element = _ := dif_pos hob
        rw [he, if_pos hob]
        exact schedule_takes ..
      · have he : element = _ := dif_neg hob
        rw [he, if_neg hob]
        exact ih
    obtain ⟨taken, waiting, h⟩ := hel
    have hr : reports o (.typed path s) = [] := by
      rw [reports_array path ht, hi]
      rfl
    rw [ofTyped_of_items ht hi]
    refine ⟨.typed path s :: taken, waiting, ?_, h.required, h.stack, h.positions.cons _⟩
    rw [due, List.flatMap_cons, hr, List.nil_append]
    exact h.warnings
  | case2 path s b ht hi =>
    rw [ofTyped_of_no_items ht hi]
    refine leaf_takes path s b [.arrayWithoutItems] ?_
    rw [reports_array path ht, hi, leafWarnings_standard ht (by decide)]
    rfl
  | case3 path s b ha ht ps hp =>
    rw [ofTyped_of_properties ht hp]
    exact schedule_takes ..
  | case4 path s b ha ht hp =>
    rw [ofTyped_of_no_properties ht hp]
    refine leaf_takes path s b [.objectWithoutProperties] ?_
    rw [reports_typed_object path ht hp, leafWarnings_standard ht (by decide)]
    rfl
  | case5 path s b ha ht =>
    rw [ofTyped, if_neg ha, if_neg ht]
    exact leaf_takes path s b [] (reports_other path ha ht)

/-- **What a field adds.** -/
theorem field_takes (path : Path) (name : String) (s : Schema) (b : Build) :
    ∃ taken waiting, Takes o b (field o path name s b).2 (ofField o path name s) taken waiting := by
  rw [field, ofField]
  cases o.custom.lookup name with
  | some v => exact ⟨[], [], (List.append_nil _).symm, rfl, rfl, .nil⟩
  | none =>
    by_cases ha : s.allOf.isSome = true
    · simp only [if_pos ha]
      exact schedule_takes ..
    · simp only [if_neg ha]
      exact typed_takes ..

theorem fields_takes (path : Path) (ps : List (String × Schema)) (b : Build) :
    ∃ taken waiting, Takes o b (fields o path ps b).2 (ofFields o path ps) taken waiting := by
  induction ps generalizing b with
  | nil =>
    rw [ofFields]
    exact ⟨[], [], .nil b⟩
  | cons p ps ih =>
    obtain ⟨name, s⟩ := p
    obtain ⟨taken, waiting, h⟩ := field_takes (o := o) (path.child name) name s b
    obtain ⟨more, later, h'⟩ := ih (field o (path.child name) name s b).2
    rw [ofFields]
    exact ⟨taken ++ more, later ++ waiting, h.trans h'⟩

/-- A turn changes nothing in the sum. -/
theorem total_expand {b : Build} {p : Pending} {rest : List Pending} (hs : b.stack = p :: rest) :
    (total o (expand o p { b with stack := rest })).Perm (total o b) := by
  obtain ⟨_, _, h⟩ := fields_takes (o := o) p.path p.fields { b with stack := rest }
  refine h.owes.trans ?_
  simp only [total, hs, List.flatMap_cons, List.append_assoc]
  exact List.perm_append_comm.append_left _

theorem total_run (b : Build) : (total o (run o b)).Perm (total o b) := by
  fun_induction run o b with
  | case1 b _ => rfl
  | case2 b p rest hs ih => exact ih.trans (total_expand hs)

/-- Before the root is taken nothing is required and no map waits. -/
theorem start_takes (o : Options) (s : Schema) :
    ∃ b taken waiting, Takes o b (start o s) (ofRoot o s) taken waiting ∧
      b.warnings.toList = (if s.normalize.properties.isNone then
        [⟨.root, .objectWithoutProperties⟩] else []) ∧
      b.required.paths = [] ∧ b.stack = [] := by
  obtain ⟨taken, waiting, h⟩ := schedule_takes (o := o) .root s.normalize.properties
    s.normalize.facets.required false
    (if s.normalize.properties.isSome then empty else empty.warn .root .objectWithoutProperties)
  refine ⟨_, taken, waiting, h, ?_⟩
  cases s.normalize.properties <;> exact ⟨rfl, rfl, rfl⟩

theorem total_start (o : Options) (s : Schema) :
    (total o (start o s)).Perm (dueRoot o s) := by
  obtain ⟨b, _, _, h, hw, -, hs⟩ := start_takes o s
  refine h.owes.trans ?_
  rw [dueRoot, total, hw, hs, List.flatMap_nil, List.append_nil]

/-- With no map waiting, all that is due has been reported. -/
theorem warnings_root (o : Options) (s : Schema) :
    (root o s).warnings.toList.Perm (dueRoot o s) := by
  have h := (total_run (start o s)).trans (total_start o s)
  rwa [total, stack_run, List.flatMap_nil, List.append_nil] at h

end Build

/-- **A compilation reports exactly what is due**, nothing of it at or below a field that is
blacklisted or has a validator of its own; a strict one succeeds, with the same validator, exactly
when nothing is due. -/
theorem warnings_compile (o : Options) (s : Schema) :
    (compile o s).warnings.Perm (Position.dueRoot o s) ∧
    (∀ w ∈ (compile o s).warnings, Position.Visible o w.path) ∧
    compileStrict o s =
      if (Position.dueRoot o s).isEmpty then .ok (compile o s).validator
      else .error (.degraded (compile o s).warnings) := by
  have hperm : (compile o s).warnings.Perm (Position.dueRoot o s) := Build.warnings_root o s
  refine ⟨hperm, fun w hw => Position.visible_dueRoot (hperm.mem_iff.1 hw), ?_⟩
  have hempty : (compile o s).warnings.isEmpty = (Position.dueRoot o s).isEmpty := by
    rw [Bool.eq_iff_iff, List.isEmpty_iff_length_eq_zero, List.isEmpty_iff_length_eq_zero,
      hperm.length_eq]
  rw [compileStrict, hempty]

/-- A list without items, a type that is not known, and two required names that are no fields. -/
def Schema.rough : Schema :=
  ofProperties [("tags", ofType "array"), ("weight", ofType "decimal")] ["tags", "gone", "hidden"]

theorem warnings_compile_rough :
    (compile ⟨.default, [], ["hidden"], false⟩ .rough).warnings.Perm
      [⟨.root, .unresolvedRequired "gone"⟩, ⟨[.field "tags"], .arrayWithoutItems⟩,
        ⟨[.field "weight"], .unknownType "decimal"⟩] := by
  refine (warnings_compile _ _).1.trans (.of_eq ?_)
  simp [Position.dueRoot, Position.ofRoot, Position.ofObject, Position.ofFields, Position.ofField,
    Position.ofTyped, Position.reports, Schema.rough, Schema.ofProperties, Schema.ofType,
    Schema.empty, Schema.normalize, Schema.typeName?, Facets.empty, TypeDecl.primary?, prune,
    KeyMap.keys, standardTypes, TypeRegistry.default, List.lookup_cons, Path.root, Path.child]

end Conform
