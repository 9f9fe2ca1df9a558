import Conform.Proofs.KeyMap
import Conform.Schema.Basic

/-!
# The members of a written schema

A schema is written as an object with a member for each keyword that is there and those that it
keeps besides (`member?`). Reading goes through the members of an object; each of them gives the
value of its own name and leaves the others as they are.

* `WithMember`: all that reading one more member can do.
* `ofMembers?_null`: a keyword that is null counts as absent.
* `clean_ofJson?`: no schema that is read keeps a keyword besides its fields, at any depth.
* `get?_toJson`: what such a schema is written as, name by name.
-/

set_option autoImplicit false

namespace Conform

/-- The keywords that hold no schema. -/
def Facets.keywords : List String :=
  ["type", "required", "enum", "minimum", "maximum", "minLength", "maxLength", "minItems",
    "maxItems"]

/-- The keywords that hold schemas. -/
def Schema.holders : List String := ["properties", "items", "allOf"]

/-- The keywords of the dialect. -/
def Schema.keywords : List String := holders ++ Facets.keywords

theorem Schema.notMem_keywords_of_mem_holders {key : String} (h : key ∈ holders) :
    key ∉ Facets.keywords := by
  simp only [holders, List.mem_cons, List.not_mem_nil, or_false] at h
  obtain rfl | rfl | rfl := h <;> decide

namespace Json

theorem lookup_optional {key name : String} {α : Type} (f : α → Json) (o : Option α) :
    (optional key f o).lookup name = if name = key then o.map f else none := by
  cases o with
  | none => exact (ite_self none).symm
  | some a => exact KeyMap.lookup_cons_eq_ite name key (f a) []

theorem reverse_optional {key : String} {α : Type} (f : α → Json) (o : Option α) :
    (optional key f o).reverse = optional key f o := by
  cases o <;> rfl

end Json

namespace Facets

/-- The value that is written under a name. -/
def member? (name : String) (f : Facets) : Option Json :=
  match name with
  | "type" => f.type.map TypeDecl.toJson
  | "required" => f.required.map .strs
  | "enum" => f.enum.map .arr
  | "minimum" => f.minimum.map .ofBinary64
  | "maximum" => f.maximum.map .ofBinary64
  | "minLength" => f.minLength.map .nat
  | "maxLength" => f.maxLength.map .nat
  | "minItems" => f.minItems.map .nat
  | "maxItems" => f.maxItems.map .nat
  | name => f.extra.lookup name

variable {key name : String} {v : Json} {f g : Facets}

/-- A member gives the value of its own name only. -/
theorem member?_withMember?_of_ne (hne : name ≠ key) (h : f.withMember? key v = some g) :
    g.member? name = f.member? name := by
  -- one case for each keyword that is read and, in it, one for each that is written
  unfold withMember? at h
  split at h
  case h_10 =>
    cases h
    unfold member?
    split <;> first | rfl | exact (KeyMap.lookup_put _ _ _ _).trans (if_neg hne)
  all_goals
    obtain ⟨_, -, rfl⟩ := Option.map_eq_some_iff.1 h
    unfold member?
    split <;> first | rfl | exact absurd rfl hne

/-- Null leaves a keyword that is absent as it is. -/
theorem withMember?_null (hkey : key ∈ keywords) (hf : f.member? key = none) :
    f.withMember? key .null = some f := by
  simp only [keywords, List.mem_cons, List.not_mem_nil, or_false] at hkey
  obtain rfl | rfl | rfl | rfl | rfl | rfl | rfl | rfl | rfl := hkey <;>
    · simp only [member?, Option.map_eq_none_iff] at hf
      rw [withMember?, keyword?, Option.map_some, ← hf]

/-- What is no keyword is written as it was kept. -/
theorem member?_of_notMem (h : name ∉ keywords) (f : Facets) :
    f.member? name = f.extra.lookup name := by
  unfold member?
  split <;> first | rfl | exact absurd (by decide) h

/-- A member whose name is no keyword is kept with its value; a keyword is not kept besides. -/
theorem extra_withMember? (h : f.withMember? key v = some g) :
    g.extra = if key ∈ keywords then f.extra else KeyMap.put key v f.extra := by
  unfold withMember? at h
  split at h
  case h_10 =>
    cases h
    rw [if_neg]
    simp_all [keywords]
  all_goals
    obtain ⟨_, -, rfl⟩ := Option.map_eq_some_iff.1 h
    rfl

/-- The members that are kept besides the keywords have other names, each once. -/
structure Clean (f : Facets) : Prop where
  sorted : KeyMap.Sorted f.extra
  noKeyword : ∀ key ∈ Schema.keywords, key ∉ KeyMap.keys f.extra

theorem clean_empty : empty.Clean := ⟨KeyMap.sorted_nil, fun _ _ => List.not_mem_nil⟩

theorem Clean.withMember? (hf : f.Clean) (hkey : key ∉ Schema.holders)
    (h : f.withMember? key v = some g) : g.Clean := by
  have hextra := extra_withMember? h
  split at hextra
  · exact ⟨hextra ▸ hf.sorted, hextra ▸ hf.noKeyword⟩
  · rename_i hother
    refine ⟨hextra ▸ KeyMap.sorted_alter hf.sorted, fun k hk hmem => ?_⟩
    have hne : k ≠ key := by
      rintro rfl
      exact (List.mem_append.1 hk).elim hkey hother
    rw [hextra, KeyMap.mem_keys_iff_isSome, KeyMap.lookup_put, if_neg hne,
      ← KeyMap.mem_keys_iff_isSome] at hmem
    exact hf.noKeyword k hk hmem

theorem lookup_members {f : Facets} (h : f.Clean) (name : String) :
    f.members.reverse.lookup name = f.member? name := by
  rw [members]
  simp only [List.reverse_append, List.lookup_append, Json.reverse_optional, Json.lookup_optional,
    h.sorted.lookup_reverse]
  by_cases hmem : name ∈ keywords
  · rw [KeyMap.lookup_of_notMem (h.noKeyword name (List.mem_append_right _ hmem))]
    simp only [keywords, List.mem_cons, List.not_mem_nil, or_false] at hmem
    obtain rfl | rfl | rfl | rfl | rfl | rfl | rfl | rfl | rfl := hmem <;> simp [member?]
  · rw [member?_of_notMem hmem]
    simp only [keywords, List.mem_cons, List.not_mem_nil, or_false, not_or] at hmem
    simp [hmem]

end Facets

namespace Schema

/-- The value that is written under a name. -/
def member? (name : String) (s : Schema) : Option Json :=
  match name with
  | "properties" => s.properties.map fun ps => .obj (namedToJson ps)
  | "items" => s.items.map toJson
  | "allOf" => s.allOf.map fun ss => .arr (listToJson ss)
  | name => s.facets.member? name

variable {key name : String} {v : Json} {ms : List (String × Json)} {s t : Schema}

/-! ## Reading members -/

/-- The schema `s` is `t` with one more member. -/
inductive WithMember (key : String) (v : Json) (t s : Schema) : Prop
  | absent (hkey : key ∈ holders) (hv : v = .null) (hs : s = t)
  | properties {ps : List (String × Json)} {qs : List (String × Schema)} (hkey : key = "properties")
    (hv : v = .obj ps) (hread : named? ps = some qs) (hs : s = { t with properties := some qs })
  | items {i : Schema} (hkey : key = "items") (hv : v ≠ .null) (hread : ofJson? v = some i)
    (hs : s = { t with items := some i })
  | allOf {vs : List Json} {ss : List Schema} (hkey : key = "allOf") (hv : v = .arr vs)
    (hread : list? vs = some ss) (hs : s = { t with allOf := some ss })
  | facet {f : Facets} (hkey : key ∉ holders) (hread : t.facets.withMember? key v = some f)
    (hs : s = { t with facets := f })

theorem withMember_of_ofMembers? (h : ofMembers? ((key, v) :: ms) = some s) :
    ∃ t, ofMembers? ms = some t ∧ WithMember key v t s := by
  rw [ofMembers?] at h
  obtain ⟨t, ht, h⟩ := Option.bind_eq_some_iff.1 h
  refine ⟨t, ht, ?_⟩
  split at h
  · rename_i hkey
    split at h
    · cases h
      exact .absent (by simp [holders, hkey]) rfl rfl
    · obtain ⟨qs, hqs, rfl⟩ := Option.map_eq_some_iff.1 h
      exact .properties hkey rfl hqs rfl
    · cases h
  · split at h
    · rename_i hkey
      split at h
      · cases h
        exact .absent (by simp [holders, hkey]) rfl rfl
      · rename_i hv
        obtain ⟨i, hi, rfl⟩ := Option.map_eq_some_iff.1 h
        exact .items hkey hv hi rfl
    · split at h
      · rename_i hkey
        split at h
        · cases h
          exact .absent (by simp [holders, hkey]) rfl rfl
        · obtain ⟨ss, hss, rfl⟩ := Option.map_eq_some_iff.1 h
          exact .allOf hkey rfl hss rfl
        · cases h
      · obtain ⟨f, hf, rfl⟩ := Option.map_eq_some_iff.1 h
        exact .facet (by simp_all [holders]) hf rfl

theorem ofMembers?_append_congr {ms ns : List (String × Json)} (h : ofMembers? ms = ofMembers? ns)
    (ls : List (String × Json)) : ofMembers? (ls ++ ms) = ofMembers? (ls ++ ns) := by
  induction ls with
  | nil => exact h
  | cons l ls ih => rw [List.cons_append, List.cons_append, ofMembers?, ofMembers?, ih]

/-- Only an object is read as a schema. -/
theorem of_ofJson? (h : ofJson? v = some s) : ∃ ms, v = .obj ms ∧ ofMembers? ms = some s := by
  cases v with
  | obj ms =>
    rw [ofJson?] at h
    exact ⟨ms, rfl, h⟩
  | _ => simp [ofJson?] at h

theorem of_named?_cons {ps : List (String × Json)} {qs : List (String × Schema)}
    (h : named? ((name, v) :: ps) = some qs) :
    ∃ s rs, ofJson? v = some s ∧ named? ps = some rs ∧ qs = (name, s) :: rs := by
  rw [named?] at h
  obtain ⟨s, hs, h⟩ := Option.bind_eq_some_iff.1 h
  obtain ⟨rs, hrs, h⟩ := Option.bind_eq_some_iff.1 h
  exact ⟨s, rs, hs, hrs, (Option.some.inj h).symm⟩

theorem of_list?_cons {vs : List Json} {ss : List Schema} (h : list? (v :: vs) = some ss) :
    ∃ s ts, ofJson? v = some s ∧ list? vs = some ts ∧ ss = s :: ts := by
  rw [list?] at h
  obtain ⟨s, hs, h⟩ := Option.bind_eq_some_iff.1 h
  obtain ⟨ts, hts, h⟩ := Option.bind_eq_some_iff.1 h
  exact ⟨s, ts, hs, hts, (Option.some.inj h).symm⟩

/-- A name that is no keyword with schemas is written as the rest of the keywords are. -/
theorem member?_of_notMem_holders (h : name ∉ holders) (s : Schema) :
    s.member? name = s.facets.member? name := by
  unfold member?
  split <;> first | rfl | exact absurd (by decide) h

/-- A member gives the value of its own name only. -/
theorem WithMember.member?_of_ne (h : WithMember key v t s) (hne : name ≠ key) :
    s.member? name = t.member? name := by
  cases h with
  | absent _ _ hs => rw [hs]
  | facet hkey hread hs =>
    rw [hs]
    by_cases hname : name ∈ holders
    · simp only [holders, List.mem_cons, List.not_mem_nil, or_false] at hname
      obtain rfl | rfl | rfl := hname <;> rfl
    · rw [member?_of_notMem_holders hname, member?_of_notMem_holders hname]
      exact Facets.member?_withMember?_of_ne hne hread
  | _ =>
    rename_i hs
    subst hs
    unfold member?
    split <;> first | rfl | exact absurd ‹_ = _›.symm hne

/-- What is no member is not written either. -/
theorem member?_of_notMem (h : ofMembers? ms = some s) (hname : name ∉ KeyMap.keys ms) :
    s.member? name = none := by
  induction ms generalizing s with
  | nil =>
    cases h
    unfold member?
    split <;> first | rfl | (unfold Facets.member?; split <;> rfl)
  | cons m ms ih =>
    rw [KeyMap.keys_cons, List.mem_cons, not_or] at hname
    obtain ⟨t, ht, hs⟩ := withMember_of_ofMembers? h
    exact (hs.member?_of_ne hname.1).trans (ih ht hname.2)

/-- A keyword that is null counts as absent, since no other member has given it a value. -/
theorem ofMembers?_null (hkey : key ∈ keywords) (hms : key ∉ KeyMap.keys ms) :
    ofMembers? ((key, .null) :: ms) = ofMembers? ms := by
  rw [ofMembers?]
  cases h : ofMembers? ms with
  | none => rfl
  | some s =>
    have habsent := member?_of_notMem h hms
    obtain hkey | hkey := List.mem_append.1 hkey
    · simp only [holders, List.mem_cons, List.not_mem_nil, or_false] at hkey
      obtain rfl | rfl | rfl := hkey <;> rfl
    · have hholders : key ∉ holders := fun hmem => notMem_keywords_of_mem_holders hmem hkey
      rw [member?_of_notMem_holders hholders] at habsent
      simp only [holders, List.mem_cons, List.not_mem_nil, or_false, not_or] at hholders
      simp only [Option.bind_eq_bind, Option.bind_some, if_neg hholders.1, if_neg hholders.2.1,
        if_neg hholders.2.2, Facets.withMember?_null hkey habsent, Option.map_some]
      cases s
      rfl

/-! ## What is read at every depth -/

/-- The keywords that hold no schema have the property, in the schema and in all inside. -/
inductive Throughout (P : Facets → Prop) : Schema → Prop
  | intro {s : Schema} (facets : P s.facets)
    (properties : ∀ ps, s.properties = some ps → ∀ p ∈ ps, Throughout P p.2)
    (items : ∀ i, s.items = some i → Throughout P i)
    (allOf : ∀ ss, s.allOf = some ss → ∀ t ∈ ss, Throughout P t) : Throughout P s

mutual

theorem clean_ofJson? (v : Json) {s : Schema} (h : ofJson? v = some s) :
    s.Throughout Facets.Clean := by
  obtain ⟨ms, rfl, h⟩ := of_ofJson? h
  exact clean_ofMembers? ms h

theorem clean_ofMembers? (ms : List (String × Json)) {s : Schema} (h : ofMembers? ms = some s) :
    s.Throughout Facets.Clean := by
  match ms with
  | [] =>
    cases h
    exact .intro Facets.clean_empty (by simp [empty]) (by simp [empty]) (by simp [empty])
  | (key, v) :: ms =>
    obtain ⟨t, ht, hs⟩ := withMember_of_ofMembers? h
    obtain ⟨facets, properties, items, allOf⟩ := clean_ofMembers? ms ht
    cases hs with
    | absent _ _ hs => exact hs ▸ .intro facets properties items allOf
    | @properties ps qs _ hv hread hs =>
      subst hv hs
      refine .intro facets (fun rs hr => ?_) items allOf
      cases hr
      exact clean_named? ps hread
    | @items i _ _ hread hs =>
      subst hs
      refine .intro facets properties (fun j hj => ?_) allOf
      cases hj
      exact clean_ofJson? v hread
    | @allOf vs ss _ hv hread hs =>
      subst hv hs
      refine .intro facets properties items fun ts ht => ?_
      cases ht
      exact clean_list? vs hread
    | facet hkey hread hs =>
      subst hs
      exact .intro (facets.withMember? hkey hread) properties items allOf

theorem clean_named? (ps : List (String × Json)) {qs : List (String × Schema)}
    (h : named? ps = some qs) : ∀ q ∈ qs, q.2.Throughout Facets.Clean := by
  match ps with
  | [] =>
    cases h
    exact fun _ hq => absurd hq List.not_mem_nil
  | (name, v) :: ps =>
    obtain ⟨s, rs, hs, hrs, rfl⟩ := of_named?_cons h
    exact List.forall_mem_cons.2 ⟨clean_ofJson? v hs, clean_named? ps hrs⟩

theorem clean_list? (vs : List Json) {ss : List Schema} (h : list? vs = some ss) :
    ∀ s ∈ ss, s.Throughout Facets.Clean := by
  match vs with
  | [] =>
    cases h
    exact fun _ hq => absurd hq List.not_mem_nil
  | v :: vs =>
    obtain ⟨s, ts, hs, hts, rfl⟩ := of_list?_cons h
    exact List.forall_mem_cons.2 ⟨clean_ofJson? v hs, clean_list? vs hts⟩

end

/-! ## Writing -/

theorem get?_toJson {s : Schema} (h : s.facets.Clean) (name : String) :
    (toJson s).get? name = s.member? name := by
  obtain ⟨f, ps, i, ss⟩ := s
  have hps : propertiesToJson ps =
      Json.optional "properties" (fun ps => .obj (namedToJson ps)) ps := by
    cases ps <;> rfl
  have hi : itemsToJson i = Json.optional "items" toJson i := by cases i <;> rfl
  have hss : allOfToJson ss = Json.optional "allOf" (fun ss => .arr (listToJson ss)) ss := by
    cases ss <;> rfl
  rw [toJson, Json.get?, KeyMap.lookup_ofList, hps, hi, hss]
  simp only [List.reverse_append, List.lookup_append, Json.reverse_optional, Json.lookup_optional,
    Facets.lookup_members h]
  by_cases hname : name ∈ holders
  · have hfacets : f.member? name = none := by
      rw [Facets.member?_of_notMem (notMem_keywords_of_mem_holders hname)]
      exact KeyMap.lookup_of_notMem (h.noKeyword name (List.mem_append_left _ hname))
    simp only [holders, List.mem_cons, List.not_mem_nil, or_false] at hname
    obtain rfl | rfl | rfl := hname <;> simp [member?, hfacets]
  · rw [member?_of_notMem_holders hname]
    simp only [holders, List.mem_cons, List.not_mem_nil, or_false, not_or] at hname
    simp [hname]

end Schema

end Conform
