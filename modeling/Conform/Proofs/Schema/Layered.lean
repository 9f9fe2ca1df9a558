import Conform.Proofs.Schema.Priority

/-!
# A fold of layers, keyword by keyword

What is in schemas that are laid over one another, read from the layers themselves. A type or a
bound is that of the last layer that has one; lists are joined; the schema under the name of a
property, and that of the items, is the fold of the layers' schemas there; unknown keywords are
folded as JSON, name by name.

* `Canonical`: all maps of a schema are sorted, those of unknown keywords included.
* `Layered`: the description. It leaves nothing open: `Layered.unique`.
* `layered_foldl_merge`: a fold of canonical layers is as described.
-/

set_option autoImplicit false

namespace Conform

/-- Lists one behind the other, if there are any. -/
def joined {α : Type} : List (List α) → Option (List α)
  | [] => none
  | list :: lists => some (list ++ lists.flatten)

theorem pile_append {α : Type} (lists : List (List α)) : pile (· ++ ·) lists = joined lists := by
  cases lists with
  | nil => rfl
  | cons list lists =>
    have hfold : lists.foldl (· ++ ·) list = list ++ lists.flatten := by
      induction lists generalizing list with
      | nil => simp
      | cons l ls ih => rw [List.foldl_cons, ih, List.flatten_cons, List.append_assoc]
    rw [pile, hfold, joined]

theorem isSome_pile_filterMap {α β : Type} {f : β → β → β} {read : α → Option β} {as : List α} :
    (pile f (as.filterMap read)).isSome ↔ ∃ a ∈ as, (read a).isSome := by
  rw [Option.isSome_iff_ne_none, Ne, pile_eq_none, List.filterMap_eq_nil_iff]
  simp [Option.isSome_iff_ne_none]

/-! ## Unknown keywords -/

namespace Json

theorem lookup_mergeMembers {ns ms : KeyMap Json} (hn : KeyMap.Sorted ns) (hm : KeyMap.Sorted ms)
    (key : String) :
    (mergeMembers ns ms).lookup key = (ns.lookup key).merge merge (ms.lookup key) := by
  rw [mergeMembers_eq]
  exact KeyMap.lookup_overlay hn hm merge key

theorem sorted_mergeMembers {ns : KeyMap Json} (hn : KeyMap.Sorted ns) (ms : KeyMap Json) :
    KeyMap.Sorted (mergeMembers ns ms) := by
  rw [mergeMembers_eq]
  exact hn.overlay merge ms

theorem pile_arr (lists : List (List Json)) :
    pile merge (lists.map arr) = (joined lists).map arr := by
  rw [← pile_append]
  exact pile_map (fun a b => by rw [merge]) lists

theorem pile_obj (maps : List (KeyMap Json)) :
    pile merge (maps.map obj) = (pile mergeMembers maps).map obj :=
  pile_map (fun a b => by rw [merge]) maps

/-- The members of objects that are laid over one another are folded name by name. -/
theorem pile_mergeMembers {maps : List (KeyMap Json)} (hm : ∀ m ∈ maps, KeyMap.Sorted m)
    {ms : KeyMap Json} (h : pile mergeMembers maps = some ms) :
    KeyMap.Sorted ms ∧ ∀ key, ms.lookup key = pile merge (maps.filterMap (·.lookup key)) := by
  cases maps with
  | nil => cases h
  | cons m maps =>
    cases h
    have hsm := hm m List.mem_cons_self
    have hrest : ∀ n ∈ maps, KeyMap.Sorted n := fun n hn => hm n (List.mem_cons_of_mem _ hn)
    refine ⟨List.foldlRecOn maps mergeMembers hsm fun n hn l _ => sorted_mergeMembers hn l, ?_⟩
    intro key
    rw [read_foldl (List.lookup key) (P := KeyMap.Sorted) (fun t l ht _ => sorted_mergeMembers ht l)
      (fun t l ht hl => lookup_mergeMembers ht hl key) hrest hsm, List.filterMap_cons]
    cases m.lookup key <;> rfl

end Json

namespace Schema

variable {s c : Schema} {ls : List Schema}

/-! ## Canonical schemas -/

/-- All maps in the schema have their names in ascending order, also those of unknown keywords and
the objects in their values. -/
structure Canonical (s : Schema) : Prop where
  sorted : s.Sorted
  extra : ∀ path c, part? path s = some c → (Json.obj c.facets.extra).Sorted

theorem Canonical.unknown (h : s.Canonical) : KeyMap.Sorted s.facets.extra :=
  (Json.sorted_obj_iff.1 (h.extra [] s rfl)).1

theorem Canonical.child (h : s.Canonical) {seg : Segment} (hc : child? seg s = some c) :
    c.Canonical :=
  ⟨h.sorted.child hc, fun path d hd => h.extra (seg :: path) d (by rw [part?, hc]; exact hd)⟩

theorem Canonical.of_children (hs : s.Sorted) (he : (Json.obj s.facets.extra).Sorted)
    (hc : ∀ seg c, child? seg s = some c → c.Canonical) : s.Canonical := by
  refine ⟨hs, fun path c h => ?_⟩
  cases path with
  | nil => cases h; exact he
  | cons seg path =>
    obtain ⟨d, hd, h⟩ := Option.bind_eq_some_iff.1 h
    exact (hc seg d hd).extra path c h

/-- Objects under an unknown keyword have their names in order. -/
theorem Canonical.object (h : s.Canonical) {key : String} {ms : KeyMap Json}
    (hm : s.facets.extra.lookup key = some (.obj ms)) : KeyMap.Sorted ms := by
  have hmem := KeyMap.mem_of_lookup hm
  exact (Json.sorted_obj_iff.1 ((Json.sorted_obj_iff.1 (h.extra [] s rfl)).2 _ hmem)).1

/-! ## The description -/

/-- Layers folded into the schema without keywords, if there are any. -/
def folded : List Schema → Option Schema
  | [] => none
  | s :: ss => some ((s :: ss).foldl merge empty)

/-- What is in a schema that is made of layers. -/
structure Layered (ls : List Schema) (m : Schema) : Prop where
  type : m.facets.type = (ls.filterMap (·.facets.type)).getLast?
  minimum : m.facets.minimum = (ls.filterMap (·.facets.minimum)).getLast?
  maximum : m.facets.maximum = (ls.filterMap (·.facets.maximum)).getLast?
  minLength : m.facets.minLength = (ls.filterMap (·.facets.minLength)).getLast?
  maxLength : m.facets.maxLength = (ls.filterMap (·.facets.maxLength)).getLast?
  minItems : m.facets.minItems = (ls.filterMap (·.facets.minItems)).getLast?
  maxItems : m.facets.maxItems = (ls.filterMap (·.facets.maxItems)).getLast?
  required : m.facets.required = joined (ls.filterMap (·.facets.required))
  enum : m.facets.enum = joined (ls.filterMap (·.facets.enum))
  allOf : m.allOf = joined (ls.filterMap (·.allOf))
  properties : m.properties.isSome = ls.any (·.properties.isSome)
  names : ∀ name, (m.property? name).isSome ↔ ∃ l ∈ ls, (l.property? name).isSome
  property : ∀ name, m.property? name = folded (ls.filterMap (·.property? name))
  items : m.items = folded (ls.filterMap (·.items))
  keys : ∀ key, key ∈ KeyMap.keys m.facets.extra ↔ ∃ l ∈ ls, key ∈ KeyMap.keys l.facets.extra
  unknown : ∀ key,
    m.facets.extra.lookup key = pile Json.merge (ls.filterMap (·.facets.extra.lookup key))
  arrays : ∀ key lists, lists ≠ [] →
    ls.filterMap (·.facets.extra.lookup key) = lists.map Json.arr →
    m.facets.extra.lookup key = some (.arr lists.flatten)
  objects : ∀ key maps, maps ≠ [] →
    ls.filterMap (·.facets.extra.lookup key) = maps.map Json.obj →
    ∃ ms, m.facets.extra.lookup key = some (.obj ms) ∧ KeyMap.Sorted ms ∧
      ∀ k, ms.lookup k = pile Json.merge (maps.filterMap (·.lookup k))

attribute [ext] Facets

/-- The description fixes all of a schema. -/
theorem Layered.unique {m n : Schema} (hm : Layered ls m) (hn : Layered ls n) (hsm : m.Sorted)
    (hsn : n.Sorted) (hem : KeyMap.Sorted m.facets.extra) (hen : KeyMap.Sorted n.facets.extra) :
    m = n := by
  have hextra : m.facets.extra = n.facets.extra :=
    hem.ext hen fun key => (hm.unknown key).trans (hn.unknown key).symm
  have hfacets : m.facets = n.facets :=
    Facets.ext (hm.type.trans hn.type.symm) (hm.required.trans hn.required.symm)
      (hm.enum.trans hn.enum.symm) (hm.minimum.trans hn.minimum.symm)
      (hm.maximum.trans hn.maximum.symm) (hm.minLength.trans hn.minLength.symm)
      (hm.maxLength.trans hn.maxLength.symm) (hm.minItems.trans hn.minItems.symm)
      (hm.maxItems.trans hn.maxItems.symm) hextra
  exact ext_property? hsm hsn hfacets (hm.properties.trans hn.properties.symm)
    (fun name => (hm.property name).trans (hn.property name).symm) (hm.items.trans hn.items.symm)
    (hm.allOf.trans hn.allOf.symm)

/-! ## Folds -/

theorem pile_merge_eq {cs : List Schema} (hc : ∀ c ∈ cs, c.Canonical) :
    pile merge cs = folded cs := by
  cases cs with
  | nil => rfl
  | cons c cs =>
    have hcc := hc c List.mem_cons_self
    rw [folded, List.foldl_cons, empty_merge hcc.sorted hcc.unknown]
    rfl

theorem canonical_children (hl : ∀ l ∈ ls, l.Canonical) (seg : Segment) :
    ∀ c ∈ ls.filterMap (child? seg), c.Canonical := by
  intro c hc
  obtain ⟨l, hm, hc⟩ := List.mem_filterMap.1 hc
  exact (hl l hm).child hc

theorem child?_foldl_canonical (hl : ∀ l ∈ ls, l.Canonical) (seg : Segment) :
    child? seg (ls.foldl merge empty) = folded (ls.filterMap (child? seg)) := by
  rw [child?_foldl_empty (fun l hm => (hl l hm).sorted), laid_eq,
    pile_merge_eq (canonical_children hl seg)]

theorem last_foldl {α : Type} {keyword : Facets → Option α} (hk : Facets.Overrides keyword) :
    keyword (ls.foldl merge empty).facets = (ls.filterMap (keyword ·.facets)).getLast? := by
  have hempty : keyword empty.facets = none := hk.empty
  rw [keyword_foldl_merge hk, hempty, Option.or_none]

theorem joined_foldl {α : Type} (read : Schema → Option (List α)) (hempty : read empty = none)
    (hread : ∀ t l, read (merge t l) = joinLists (read t) (read l)) :
    read (ls.foldl merge empty) = joined (ls.filterMap read) := by
  rw [read_foldl read (P := fun _ => True) (f := (· ++ ·)) (fun _ _ _ _ => trivial)
    (fun t l _ _ => (hread t l).trans (joinLists_eq _ _)) (fun _ _ => trivial) trivial, hempty,
    pile_append]
  rfl

theorem isSome_properties_foldl (t : Schema) :
    (ls.foldl merge t).properties.isSome =
      (t.properties.isSome || ls.any (·.properties.isSome)) := by
  induction ls generalizing t with
  | nil => simp
  | cons l ls ih => rw [List.foldl_cons, ih, isSome_properties_merge, List.any_cons, Bool.or_assoc]

theorem sorted_extra_foldl {t : Schema} (ht : KeyMap.Sorted t.facets.extra) :
    KeyMap.Sorted (ls.foldl merge t).facets.extra := by
  induction ls generalizing t with
  | nil => exact ht
  | cons l ls ih =>
    refine ih ?_
    rw [facets_merge]
    exact Json.sorted_mergeMembers ht _

theorem lookup_extra_foldl (hl : ∀ l ∈ ls, l.Canonical) (key : String) :
    (ls.foldl merge empty).facets.extra.lookup key =
      pile Json.merge (ls.filterMap (·.facets.extra.lookup key)) := by
  have hread : ∀ t l : Schema, KeyMap.Sorted t.facets.extra → KeyMap.Sorted l.facets.extra →
      (merge t l).facets.extra.lookup key =
        (t.facets.extra.lookup key).merge Json.merge (l.facets.extra.lookup key) := by
    intro t l ht hl
    rw [facets_merge]
    exact Json.lookup_mergeMembers ht hl key
  have hkept : ∀ t l : Schema, KeyMap.Sorted t.facets.extra → KeyMap.Sorted l.facets.extra →
      KeyMap.Sorted (merge t l).facets.extra := by
    intro t l ht _
    rw [facets_merge]
    exact Json.sorted_mergeMembers ht _
  have hempty : KeyMap.Sorted empty.facets.extra := KeyMap.sorted_nil
  exact read_foldl (·.facets.extra.lookup key) hkept hread (fun l hm => (hl l hm).unknown) hempty

/-- Lists under an unknown keyword are joined. -/
theorem lookup_extra_arrays (hl : ∀ l ∈ ls, l.Canonical) {key : String} {lists : List (List Json)}
    (hne : lists ≠ []) (h : ls.filterMap (·.facets.extra.lookup key) = lists.map Json.arr) :
    (ls.foldl merge empty).facets.extra.lookup key = some (.arr lists.flatten) := by
  rw [lookup_extra_foldl hl, h, Json.pile_arr]
  cases lists with
  | nil => exact absurd rfl hne
  | cons list lists => rfl

/-- Objects under an unknown keyword are folded name by name. -/
theorem lookup_extra_objects (hl : ∀ l ∈ ls, l.Canonical) {key : String}
    {maps : List (KeyMap Json)} (hne : maps ≠ [])
    (h : ls.filterMap (·.facets.extra.lookup key) = maps.map Json.obj) :
    ∃ ms, (ls.foldl merge empty).facets.extra.lookup key = some (.obj ms) ∧ KeyMap.Sorted ms ∧
      ∀ k, ms.lookup k = pile Json.merge (maps.filterMap (·.lookup k)) := by
  have hsorted : ∀ m ∈ maps, KeyMap.Sorted m := by
    intro m hm
    have hmem : Json.obj m ∈ ls.filterMap (·.facets.extra.lookup key) := by
      rw [h]
      exact List.mem_map_of_mem hm
    obtain ⟨l, hml, hobj⟩ := List.mem_filterMap.1 hmem
    exact (hl l hml).object hobj
  cases hms : pile Json.mergeMembers maps with
  | none => exact absurd (pile_eq_none.1 hms) hne
  | some ms =>
    refine ⟨ms, ?_, Json.pile_mergeMembers hsorted hms⟩
    rw [lookup_extra_foldl hl, h, Json.pile_obj, hms]
    rfl

/-- **What is in a fold of layers.** Every keyword of it can be read from the layers, and nothing
else is in it. -/
theorem layered_foldl_merge (hl : ∀ l ∈ ls, l.Canonical) :
    Layered ls (ls.foldl merge empty) ∧
    ∀ m : Schema, m.Sorted → KeyMap.Sorted m.facets.extra → Layered ls m →
      m = ls.foldl merge empty := by
  have hsorted : (ls.foldl merge empty).Sorted :=
    sorted_foldl_merge sorted_empty fun l hm => (hl l hm).sorted
  have hproperty : ∀ name, (ls.foldl merge empty).property? name =
      folded (ls.filterMap (·.property? name)) := fun name =>
    child?_foldl_canonical hl (.field name)
  have hunknown := lookup_extra_foldl hl
  obtain ⟨htype, hmin, hmax, hminLength, hmaxLength, hminItems, hmaxItems⟩ := Facets.overrides
  have hlayered : Layered ls (ls.foldl merge empty) :=
    { type := last_foldl htype
      minimum := last_foldl hmin
      maximum := last_foldl hmax
      minLength := last_foldl hminLength
      maxLength := last_foldl hmaxLength
      minItems := last_foldl hminItems
      maxItems := last_foldl hmaxItems
      required := joined_foldl (·.facets.required) rfl fun t l => by rw [facets_merge]; rfl
      enum := joined_foldl (·.facets.enum) rfl fun t l => by rw [facets_merge]; rfl
      allOf := joined_foldl (·.allOf) rfl allOf_merge
      properties := isSome_properties_foldl empty
      names := by
        intro name
        have hpile : pile merge (ls.filterMap (·.property? name)) = _ :=
          pile_merge_eq (canonical_children hl (.field name))
        rw [hproperty, ← hpile]
        exact isSome_pile_filterMap
      property := hproperty
      items := child?_foldl_canonical hl .items
      keys := by
        intro key
        simp only [KeyMap.mem_keys_iff_isSome, hunknown, isSome_pile_filterMap]
      unknown := hunknown
      arrays := fun key lists hne h => lookup_extra_arrays hl hne h
      objects := fun key maps hne h => lookup_extra_objects hl hne h }
  exact ⟨hlayered, fun m hm he h => h.unique hlayered hm hsorted he (sorted_extra_foldl .nil)⟩

/-- Objects with a code, an example of it and where that comes from. -/
def codeLayer (code : Schema) (sample : String) (origin : KeyMap Json) : Schema :=
  { facets :=
      { Facets.empty with
        required := some ["code"]
        extra := [("examples", .arr [.str sample]), ("origin", .obj origin)] }
    properties := some [("code", code)]
    items := none
    allOf := none }

/-- Two layers of which the second one knows more. -/
def codeLayers : List Schema :=
  [codeLayer (ofLength (some 1) none) "a" [("year", .nat 2020)],
    codeLayer (ofLength (some 2) (some 8)) "bb" [("place", .str "port"), ("year", .nat 2024)]]

theorem canonical_ofLength (least most : Option Nat) : (ofLength least most).Canonical := by
  refine .of_children ?_ (by simp [ofLength, Facets.empty, KeyMap.sorted_nil]) fun seg c h => ?_
  · exact .of_parts (by simp [ofLength, empty]) (by simp [ofLength, empty])
      (by simp [ofLength, empty])
  · cases seg <;> cases h

theorem canonical_codeLayer {code : Schema} (hc : code.Canonical) (sample : String)
    {origin : KeyMap Json} (ho : (Json.obj origin).Sorted) :
    (codeLayer code sample origin).Canonical := by
  refine .of_children ?_ ?_ fun seg c h => ?_
  · refine .of_parts (fun ps hp => ?_) (fun _ hi => ?_) (fun _ ha => ?_)
    · cases hp
      exact ⟨List.pairwise_singleton _ _, by simp [hc.sorted]⟩
    · cases hi
    · cases ha
  · have hlt : "examples" < "origin" := by decide
    refine .obj (List.pairwise_pair.2 hlt) ?_
    simp [codeLayer, -Json.sorted_obj_iff, ho]
  · cases seg with
    | field name =>
      have hmem : (name, c) ∈ [("code", code)] := KeyMap.mem_of_lookup h
      cases List.mem_singleton.1 hmem
      exact hc
    | index i => cases h
    | items => cases h

theorem layered_foldl_merge_codeLayers :
    (∀ l ∈ codeLayers, l.Canonical) ∧ Layered codeLayers (codeLayers.foldl merge empty) ∧
    (codeLayers.foldl merge empty).facets.required = some ["code", "code"] ∧
    (codeLayers.foldl merge empty).facets.extra.lookup "examples" =
      some (.arr [.str "a", .str "bb"]) ∧
    ∃ ms, (codeLayers.foldl merge empty).facets.extra.lookup "origin" = some (.obj ms) ∧
      ms.lookup "year" = some (.nat 2024) ∧ ms.lookup "place" = some (.str "port") := by
  have hcanonical : ∀ l ∈ codeLayers, l.Canonical := by
    have hfirst : (Json.obj [("year", .nat 2020)]).Sorted :=
      .obj (by decide) (by simp [Json.nat])
    have hsecond : (Json.obj [("place", .str "port"), ("year", .nat 2024)]).Sorted :=
      .obj (by decide) (by simp [Json.nat])
    simp only [codeLayers, List.mem_cons, List.not_mem_nil, or_false, forall_eq_or_imp, forall_eq]
    exact ⟨canonical_codeLayer (canonical_ofLength _ _) _ hfirst,
      canonical_codeLayer (canonical_ofLength _ _) _ hsecond⟩
  obtain ⟨hlayered, -⟩ := layered_foldl_merge hcanonical
  obtain ⟨ms, hms, -, hmembers⟩ := hlayered.objects "origin"
    [[("year", .nat 2020)], [("place", .str "port"), ("year", .nat 2024)]] (by simp) rfl
  refine ⟨hcanonical, hlayered, hlayered.required, ?_, ms, hms, ?_, ?_⟩
  · exact hlayered.arrays "examples" [[.str "a"], [.str "bb"]] (by simp) rfl
  · rw [hmembers]
    rfl
  · rw [hmembers]
    rfl

end Schema

end Conform
