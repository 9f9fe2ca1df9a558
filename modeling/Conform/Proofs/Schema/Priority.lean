import Conform.Proofs.Schema.Effective

/-!
# The priority of layers at every depth

What is said of the place at a path comes from the layers of the schemas on the way there
(`stated`), and what is there is a fold of them (`IsFold`), for either reading of a schema with its
own order of the layers.

* `effective_layers`: the order of the layers at every path, for both readings, and where the two
  readings agree.
* `effective_ofCodes_ne_eager`: a nested `allOf` of a later layer can lose to an earlier layer.
-/

set_option autoImplicit false

namespace Conform

namespace Schema

variable {s t u m : Schema} {ss ls : List Schema} {f : Schema → Schema} {seg : Segment}

/-! ## Layers at a path -/

variable {order : List Schema → List Schema} {path : Path}

/-- What is said of the place at a path, where the layers of schemas come in a given order. -/
def stated (order : List Schema → List Schema) : Path → List Schema → List Schema
  | [], ss => ss
  | seg :: path, ss => stated order path ((order ss).filterMap (child? seg))

/-- There is something if there are layers, and then it is the fold of them. -/
def IsFold (ls : List Schema) : Option Schema → Prop
  | none => ls = []
  | some m => ls ≠ [] ∧ AgreeTop m (ls.foldl merge empty)

/-- An order in which the layers of schemas may come. -/
structure Arranges (order : List Schema → List Schema) : Prop where
  sorted : ∀ ss, (∀ s ∈ ss, s.Sorted) → ∀ l ∈ order ss, l.Sorted
  eq_nil : ∀ ss, order ss = [] ↔ ss = []

theorem arranges_seenOf : Arranges seenOf where
  sorted _ := sorted_seenOf
  eq_nil ss := by
    cases ss with
    | nil => simp [seenOf, layersOf]
    | cons s ss => simp [seenOf]

theorem arranges_layersOf : Arranges layersOf where
  sorted := sorted_layersOf
  eq_nil ss := by
    cases ss with
    | nil => simp [layersOf]
    | cons s ss => simp [layersOf, layers_eq]

theorem Arranges.stated_nil (ho : Arranges order) (path : Path) : stated order path [] = [] := by
  induction path with
  | nil => rfl
  | cons seg path ih => rw [stated, (ho.eq_nil []).2 rfl, List.filterMap_nil, ih]

theorem Arranges.sorted_stated (ho : Arranges order) (path : Path) (hs : ∀ s ∈ ss, s.Sorted) :
    ∀ s ∈ stated order path ss, s.Sorted := by
  induction path generalizing ss with
  | nil => exact hs
  | cons seg path ih => exact ih (sorted_children (ho.sorted ss hs) seg)

/-- If at every place the order is the one in which layers are seen, what is seen at a place is the
fold of the layers there. -/
theorem Arranges.isFold_effective (ho : Arranges order)
    (hn : ∀ path, Agree ((stated order path ss).foldl merge empty).normalize
      ((order (stated order path ss)).foldl merge empty))
    (hs : s.Sorted) (hss : ∀ t ∈ ss, t.Sorted) (hne : ss ≠ [])
    (h : Agree s (ss.foldl merge empty)) (path : Path) :
    IsFold (order (stated order path ss)) (part? path s.effective) := by
  induction path generalizing s ss with
  | nil =>
    have hnorm := (h.normalize hs (sorted_foldl_merge sorted_empty hss)).trans (hn [])
    refine ⟨fun he => hne ((ho.eq_nil ss).1 he), ?_⟩
    rw [effective_eq]
    exact (mapBelow_top effective _).trans hnorm.top
  | cons seg path ih =>
    have hnorm : Agree s.normalize ((order ss).foldl merge empty) :=
      (h.normalize hs (sorted_foldl_merge sorted_empty hss)).trans (hn [])
    have hlayers := ho.sorted ss hss
    rw [stated, part?, effective_eq, child?_mapBelow]
    rcases hnorm.child_foldl hlayers seg with ⟨hc, hnil⟩ | ⟨c, hc, hcs, hagree⟩
    · rw [hc, hnil, ho.stated_nil]
      exact (ho.eq_nil []).2 rfl
    · rw [hc]
      exact ih (fun path => hn (seg :: path)) (hs.normalize.child hc) (sorted_children hlayers seg)
        hcs hagree

theorem foldl_mapBelow_top (h : AgreeTop t u) (ls : List Schema) :
    AgreeTop ((ls.map (mapBelow f)).foldl merge t) (ls.foldl merge u) := by
  induction ls generalizing t u with
  | nil => exact h
  | cons l ls ih => exact ih (h.merge (mapBelow_top f l))

/-- What layers describe at a place is the fold of the layers there, as they are laid. -/
theorem isFold_eager (hs : s.Sorted) (hss : ∀ t ∈ ss, t.Sorted) (hne : ss ≠ [])
    (h : Agree s ((ss.map eager).foldl merge empty)) (path : Path) :
    IsFold (layersOf (stated layersOf path ss)) (part? path s) := by
  induction path generalizing s ss with
  | nil =>
    have hfold := h.trans (foldl_eager_layersOf empty ss sorted_empty hss).symm
    refine ⟨fun he => hne ((arranges_layersOf.eq_nil ss).1 he), ?_⟩
    exact hfold.top.trans (foldl_mapBelow_top (Agree.refl empty).top _)
  | cons seg path ih =>
    have hfold := h.trans (foldl_eager_layersOf empty ss sorted_empty hss).symm
    have hlayers := sorted_layersOf ss hss
    have hbelow : ((layersOf ss).map (mapBelow eager)).filterMap (child? seg) =
        ((layersOf ss).filterMap (child? seg)).map eager := by
      simp only [List.filterMap_map, List.map_filterMap, Function.comp_def, child?_mapBelow]
    have hcases := hfold.child_foldl (sorted_map_mapBelow hlayers) seg
    rw [hbelow] at hcases
    rw [stated, part?]
    rcases hcases with ⟨hc, hnil⟩ | ⟨c, hc, hcs, hagree⟩
    · rw [hc, List.map_eq_nil_iff.1 hnil, arranges_layersOf.stated_nil]
      exact (arranges_layersOf.eq_nil []).2 rfl
    · rw [hc]
      exact ih (hs.child hc) (sorted_children hlayers seg)
        (fun he => hcs (List.map_eq_nil_iff.2 he)) hagree

/-- Schemas that are the folds of the same layers at every path agree. -/
theorem agree_of_isFold (hs : s.Sorted) (ht : t.Sorted)
    (h : ∀ path, ∃ ls, IsFold ls (part? path s) ∧ IsFold ls (part? path t)) : Agree s t := by
  induction s, hs using Sorted.induct generalizing t with
  | step s hs ihp ihi =>
    obtain ⟨ls, ⟨-, htop⟩, -, htop'⟩ := h []
    refine agree_of_children hs ht (htop.trans htop'.symm) fun seg => ?_
    have hbelow : ∀ c d, child? seg s = some c → child? seg t = some d →
        ∀ path, ∃ ls, IsFold ls (part? path c) ∧ IsFold ls (part? path d) := by
      intro c d hc hd path
      have hp := h (seg :: path)
      rwa [part?, part?, hc, hd] at hp
    obtain ⟨ls, hls, hls'⟩ := h [seg]
    rw [part?] at hls hls'
    cases hc : child? seg s with
    | none =>
      cases hd : child? seg t with
      | none => rfl
      | some d =>
        rw [hc] at hls
        rw [hd] at hls'
        exact absurd hls hls'.1
    | some c =>
      cases hd : child? seg t with
      | none =>
        rw [hc] at hls
        rw [hd] at hls'
        exact absurd hls' hls.1
      | some d =>
        have hsd := ht.child hd
        have hparts := hbelow c d hc hd
        refine congrArg some ?_
        cases seg with
        | field name => exact ihp name c hc hsd hparts
        | items => exact ihi c hc hsd hparts
        | index i => cases hc

end Schema

/-! ## Keywords that are overridden -/

/-- A keyword of which a layer replaces the value that was there before. -/
structure Facets.Overrides {α : Type} (keyword : Facets → Option α) : Prop where
  empty : keyword .empty = none
  merge : ∀ t l : Facets, keyword (t.merge l) = (keyword l).or (keyword t)
  dropUnknown : ∀ f, keyword (Edit.dropUnknown.onFacets f) = keyword f

/-- All keywords with a single value are of this kind. -/
theorem Facets.overrides :
    Overrides Facets.type ∧ Overrides Facets.minimum ∧ Overrides Facets.maximum ∧
    Overrides Facets.minLength ∧ Overrides Facets.maxLength ∧ Overrides Facets.minItems ∧
    Overrides Facets.maxItems := by
  refine ⟨?_, ?_, ?_, ?_, ?_, ?_, ?_⟩ <;> exact ⟨rfl, fun _ _ => rfl, fun _ => rfl⟩

namespace Schema

variable {α : Type} {keyword : Facets → Option α} {s m : Schema} {ls : List Schema}

theorem keyword_foldl_merge (hk : Facets.Overrides keyword) (t : Schema) :
    keyword (ls.foldl merge t).facets =
      (ls.filterMap (keyword ·.facets)).getLast?.or (keyword t.facets) := by
  have hread : ∀ t l : Schema, keyword (merge t l).facets =
      (keyword t.facets).merge (fun _ a => a) (keyword l.facets) := by
    intro t l
    rw [facets_merge, hk.merge]
    cases keyword t.facets <;> cases keyword l.facets <;> rfl
  rw [read_foldl (keyword ·.facets) (fun _ _ _ _ => trivial) (fun t l _ _ => hread t l)
    (fun _ _ => trivial) trivial, pile_last, List.getLast?_append]
  cases keyword t.facets <;> rfl

/-- The last layer that has the keyword wins. -/
theorem IsFold.keyword_eq {part : Option Schema} (h : IsFold ls part)
    (hk : Facets.Overrides keyword) :
    part.bind (keyword ·.facets) = (ls.filterMap (keyword ·.facets)).getLast? := by
  cases part with
  | none =>
    rw [(h : ls = [])]
    rfl
  | some m =>
    have hfold : keyword (ls.foldl merge empty).facets = _ := keyword_foldl_merge hk empty
    rw [Option.bind_some, ← hk.dropUnknown, h.2.facets, hk.dropUnknown, hfold]
    exact (congrArg _ hk.empty).trans Option.or_none

theorem Agree.keyword_part {t : Schema} (h : Agree s t) (hk : Facets.Overrides keyword)
    (path : Path) :
    (part? path s).bind (keyword ·.facets) = (part? path t).bind (keyword ·.facets) := by
  have hedit : ∀ p : Option Schema, (p.map (edit .dropUnknown)).bind (keyword ·.facets) =
      p.bind (keyword ·.facets) := by
    intro p
    cases p with
    | none => rfl
    | some m =>
      rw [Option.map_some, Option.bind_some, Option.bind_some, facets_edit, hk.dropUnknown]
  rw [← hedit, h.part path, hedit]

/-- At every path the layers come in an order in which they are seen as they are laid. -/
def LaidInOrder (s : Schema) : Prop := ∀ path, (stated layersOf path [s]).Pairwise InOrder

theorem isFold_effective_seenOf (hs : s.Sorted) (path : Path) :
    IsFold (seenOf (stated seenOf path [s])) (part? path s.effective) := by
  have hsingle : ∀ t ∈ [s], t.Sorted := fun t ht => List.mem_singleton.1 ht ▸ hs
  refine arranges_seenOf.isFold_effective (fun path => ?_) hs hsingle (List.cons_ne_nil s [])
    (Agree.empty_merge hs).symm path
  exact normalize_foldl_merge (arranges_seenOf.sorted_stated path hsingle)

theorem isFold_effective_layersOf (hs : s.Sorted) (ho : s.LaidInOrder) (path : Path) :
    IsFold (layersOf (stated layersOf path [s])) (part? path s.effective) := by
  have hsingle : ∀ t ∈ [s], t.Sorted := fun t ht => List.mem_singleton.1 ht ▸ hs
  refine arranges_layersOf.isFold_effective (fun path => ?_) hs hsingle (List.cons_ne_nil s [])
    (Agree.empty_merge hs).symm path
  have hstated := arranges_layersOf.sorted_stated path hsingle
  exact (normalize_foldl_merge hstated).trans (foldl_seenOf (ho path) hstated sorted_empty)

theorem isFold_eager_layersOf (hs : s.Sorted) (path : Path) :
    IsFold (layersOf (stated layersOf path [s])) (part? path s.eager) :=
  isFold_eager hs.eager (fun _ ht => List.mem_singleton.1 ht ▸ hs) (List.cons_ne_nil s [])
    (Agree.empty_merge hs.eager).symm path

/-- **The priority of layers at every depth.** What is seen at a path, where every schema is
normalized at the moment it is reached, is the fold of the layers there as seen: at every step the
`allOf` of any layer comes before the own keywords of all. What the layers describe, each worked out
before the next one is laid on it, is their fold as they are laid. In both the last layer that has a
keyword of a single value wins, so the two agree where every layer that brings an `allOf` of its own
comes on layers without keywords. -/
theorem effective_layers {s : Schema} (hs : s.Sorted) :
    (∀ path, IsFold (seenOf (stated seenOf path [s])) (part? path s.effective)) ∧
    (∀ path, IsFold (layersOf (stated layersOf path [s])) (part? path s.eager)) ∧
    (∀ {α : Type} (keyword : Facets → Option α), Facets.Overrides keyword → ∀ path,
      (part? path s.effective).bind (keyword ·.facets) =
        ((seenOf (stated seenOf path [s])).filterMap (keyword ·.facets)).getLast? ∧
      (part? path s.eager).bind (keyword ·.facets) =
        ((layersOf (stated layersOf path [s])).filterMap (keyword ·.facets)).getLast?) ∧
    (s.LaidInOrder → Agree s.effective s.eager) := by
  refine ⟨isFold_effective_seenOf hs, isFold_eager_layersOf hs, fun keyword hk path => ?_,
    fun ho => ?_⟩
  · exact ⟨(isFold_effective_seenOf hs path).keyword_eq hk,
      (isFold_eager_layersOf hs path).keyword_eq hk⟩
  · exact agree_of_isFold hs.effective hs.eager fun path =>
      ⟨_, isFold_effective_layersOf hs ho path, isFold_eager_layersOf hs path⟩

/-- Texts of a least length. -/
def ofTexts (least : Nat) : Schema :=
  { empty with facets :=
      { Facets.empty with type := some (.one "string"), minLength := some least } }

/-- Two layers that describe a list of codes by its items. -/
def ofCodes (first second : Schema) : Schema :=
  empty.withAllOf
    [ofProperties [("codes", ofItems first)] [], ofProperties [("codes", ofItems second)] []]

theorem sorted_ofTexts (least : Nat) : (ofTexts least).Sorted :=
  .of_parts (by simp [ofTexts, empty]) (by simp [ofTexts, empty]) (by simp [ofTexts, empty])

theorem sorted_ofCodes {first second : Schema} (h : first.Sorted) (h' : second.Sorted) :
    (ofCodes first second).Sorted := by
  have hlayer : ∀ i : Schema, i.Sorted → (ofProperties [("codes", ofItems i)] []).Sorted :=
    fun i hi => sorted_ofProperties _ ⟨List.pairwise_singleton _ _, by simp [sorted_ofItems hi]⟩
  exact sorted_withAllOf (by simp [hlayer, h, h'])

theorem sorted_nested (least : Nat) : (empty.withAllOf [ofTexts least]).Sorted :=
  sorted_withAllOf (by simp [sorted_ofTexts])

theorem below_ofCodes (first second : Schema) (seg : Segment) :
    (layersOf [ofCodes first second]).filterMap (child? seg) =
      if seg = .field "codes" then [ofItems first, ofItems second] else [] := by
  have hproperty : ∀ (i : Schema) (name : String),
      child? (.field name) (ofProperties [("codes", i)] []) =
        if name = "codes" then some i else none :=
    fun i name => KeyMap.lookup_cons_eq_ite name "codes" i []
  have hlayers : layersOf [ofCodes first second] =
      [ofProperties [("codes", ofItems first)] [], ofProperties [("codes", ofItems second)] [],
        empty] := by
    simp [layersOf, ofCodes, withAllOf, ofProperties, layers, empty]
  rw [hlayers]
  cases seg with
  | field name => by_cases hn : name = "codes" <;> simp [hproperty, child?_empty, hn]
  | index i => rfl
  | items => rfl

theorem below_ofItems (first second : Schema) (seg : Segment) :
    (layersOf [ofItems first, ofItems second]).filterMap (child? seg) =
      if seg = .items then [first, second] else [] := by
  have hlayers : layersOf [ofItems first, ofItems second] = [ofItems first, ofItems second] := by
    simp [layersOf, ofItems, ofType, layers, empty]
  rw [hlayers]
  cases seg <;> rfl

theorem below_ofTexts (n m : Nat) (seg : Segment) :
    (layersOf [empty.withAllOf [ofTexts n], ofTexts m]).filterMap (child? seg) = [] := by
  have hlayers : layersOf [empty.withAllOf [ofTexts n], ofTexts m] =
      [ofTexts n, empty, ofTexts m] := by
    simp [layersOf, withAllOf, ofTexts, layers, empty]
  rw [hlayers]
  cases seg <;> rfl

/-- A nested `allOf` in the first layer is in order. -/
theorem laidInOrder_ofCodes (n m : Nat) :
    (ofCodes (empty.withAllOf [ofTexts n]) (ofTexts m)).LaidInOrder := by
  have hnil : ∀ path, stated layersOf path [] = [] := arranges_layersOf.stated_nil
  have hlater : ∀ s t : Schema, t.entries = [] → [s, t].Pairwise InOrder := fun s t h => by
    simp [InOrder, h]
  intro path
  match path with
  | [] => exact List.pairwise_singleton _ _
  | a :: path =>
    rw [stated, below_ofCodes]
    split
    · match path with
      | [] => exact hlater _ _ rfl
      | b :: path =>
        rw [stated, below_ofItems]
        split
        · match path with
          | [] => exact hlater _ _ rfl
          | c :: path => rw [stated, below_ofTexts, hnil]; exact .nil
        · rw [hnil]; exact .nil
    · rw [hnil]; exact .nil

/-- Where the first layer has the nested `allOf`, the second one wins. -/
theorem effective_layers_ofCodes :
    (ofCodes (empty.withAllOf [ofTexts 1]) (ofTexts 2)).Sorted ∧
    (ofCodes (empty.withAllOf [ofTexts 1]) (ofTexts 2)).LaidInOrder ∧
    Agree (ofCodes (empty.withAllOf [ofTexts 1]) (ofTexts 2)).effective
      (ofCodes (empty.withAllOf [ofTexts 1]) (ofTexts 2)).eager ∧
    (part? [.field "codes", .items]
      (ofCodes (empty.withAllOf [ofTexts 1]) (ofTexts 2)).effective).bind (·.facets.minLength) =
      some 2 := by
  have hs := sorted_ofCodes (sorted_nested 1) (sorted_ofTexts 2)
  have ho := laidInOrder_ofCodes 1 2
  obtain ⟨-, -, hlast, hagree⟩ := effective_layers hs
  refine ⟨hs, ho, hagree ho, ?_⟩
  exact (hlast Facets.minLength Facets.overrides.2.2.2.1 [.field "codes", .items]).1

/-- Where the second layer has it, the first one wins, against the order of the layers. -/
theorem effective_ofCodes_ne_eager :
    (ofCodes (ofTexts 1) (empty.withAllOf [ofTexts 2])).Sorted ∧
    ¬ Agree (ofCodes (ofTexts 1) (empty.withAllOf [ofTexts 2])).effective
      (ofCodes (ofTexts 1) (empty.withAllOf [ofTexts 2])).eager := by
  have hs := sorted_ofCodes (sorted_ofTexts 1) (sorted_nested 2)
  have hk := Facets.overrides.2.2.2.1
  have hseen : (part? [.field "codes", .items]
      (ofCodes (ofTexts 1) (empty.withAllOf [ofTexts 2])).effective).bind (·.facets.minLength) =
      some 1 :=
    (isFold_effective_seenOf hs [.field "codes", .items]).keyword_eq hk
  have hlaid : (part? [.field "codes", .items]
      (ofCodes (ofTexts 1) (empty.withAllOf [ofTexts 2])).eager).bind (·.facets.minLength) =
      some 2 :=
    (isFold_eager_layersOf hs [.field "codes", .items]).keyword_eq hk
  refine ⟨hs, fun h => ?_⟩
  have hpart := h.keyword_part hk [.field "codes", .items]
  rw [hseen, hlaid] at hpart
  cases hpart

end Schema

end Conform
