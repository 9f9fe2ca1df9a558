import Conform.Proofs.Number
import Conform.Proofs.Schema.Members
import Conform.Proofs.Schema.Reading

/-!
# Reading what was written

A schema that is read from a raw value is written as that value in another form (`Schema.written`):
in the place of each schema the keywords that are null are left out, and the values of `minimum` and
`maximum` are doubles. Nothing else changes, and what is no keyword stays even if it is null.

* `ofJson?_written`: a raw value and its written form are read in the same way.
* `toJson_of_ofJson?`: a schema is written as the written form of what it was read from.
* `ofJson?_toJson`: so a schema survives being written.
-/

set_option autoImplicit false

namespace Conform

/-- All numbers in the value are numbers of JSON. -/
inductive Json.Proper : Json → Prop
  | null : Proper .null
  | bool (b : Bool) : Proper (.bool b)
  | num {n : Number} (proper : n.Proper) : Proper (.num n)
  | str (s : String) : Proper (.str s)
  | arr {vs : List Json} (items : ∀ v ∈ vs, Proper v) : Proper (.arr vs)
  | obj {ms : List (String × Json)} (members : ∀ m ∈ ms, Proper m.2) : Proper (.obj ms)

namespace Json

attribute [simp] Proper.null Proper.bool Proper.str

@[simp] theorem proper_num_iff {n : Number} : (num n).Proper ↔ n.Proper := by
  refine ⟨fun h => ?_, .num⟩
  cases h with
  | num proper => exact proper

@[simp] theorem proper_arr_iff {vs : List Json} : (arr vs).Proper ↔ ∀ v ∈ vs, v.Proper := by
  refine ⟨fun h => ?_, .arr⟩
  cases h with
  | arr items => exact items

@[simp] theorem proper_obj_iff {ms : List (String × Json)} :
    (obj ms).Proper ↔ ∀ m ∈ ms, m.2.Proper := by
  refine ⟨fun h => ?_, .obj⟩
  cases h with
  | obj members => exact members

end Json

namespace Schema

/-! ## The written form -/

mutual

/-- The value in the place of a schema, in the form in which that schema is written. -/
def written : Json → Json
  | .obj ms => .obj (writtenMembers ms)
  | v => v

/-- The members of a schema in that form. -/
def writtenMembers : List (String × Json) → List (String × Json)
  | [] => []
  | (key, v) :: ms => ((writtenMember key v).map (key, ·)).toList ++ writtenMembers ms

/-- The value of a member in that form; a keyword that is null is left out. -/
def writtenMember (key : String) : Json → Option Json
  | .null => if key ∈ keywords then none else some .null
  | .num n => some (.num (if key = "minimum" ∨ key = "maximum" then .real n.toBinary64 else n))
  | .arr vs => some (.arr (if key = "allOf" then writtenList vs else vs))
  | .obj ms =>
    some (.obj
      (if key = "properties" then writtenNamed ms
      else if key = "items" then writtenMembers ms
      else ms))
  | v => some v

/-- The schemas of properties in that form. -/
def writtenNamed : List (String × Json) → List (String × Json)
  | [] => []
  | (name, v) :: ps => (name, written v) :: writtenNamed ps

/-- The schemas of `allOf` in that form. -/
def writtenList : List Json → List Json
  | [] => []
  | v :: vs => written v :: writtenList vs

end

theorem writtenMembers_eq (ms : List (String × Json)) :
    writtenMembers ms = ms.filterMap fun m => (writtenMember m.1 m.2).map (m.1, ·) := by
  induction ms with
  | nil => rw [writtenMembers]; rfl
  | cons m ms ih =>
    rw [writtenMembers, ih, List.filterMap_cons]
    cases writtenMember m.1 m.2 <;> rfl

/-! ## Reading the written form -/

/-- A member is read in the same way in its written form, if what it holds is. -/
theorem ofMembers?_writtenMember {key : String} {v : Json} {ms : List (String × Json)}
    (hkey : key ∉ KeyMap.keys ms)
    (hobj : ∀ ps, v = .obj ps →
      named? (writtenNamed ps) = named? ps ∧ ofMembers? (writtenMembers ps) = ofMembers? ps)
    (harr : ∀ vs, v = .arr vs → list? (writtenList vs) = list? vs) :
    ofMembers? (((writtenMember key v).map (key, ·)).toList ++ ms) =
      ofMembers? ((key, v) :: ms) := by
  cases v with
  | null =>
    rw [writtenMember]
    split
    · rename_i hkeyword
      exact (ofMembers?_null hkeyword hkey).symm
    · rfl
  | num n =>
    rw [writtenMember]
    split
    · rename_i hlimit
      obtain rfl | rfl := hlimit <;> rfl
    · rfl
  | arr vs =>
    rw [writtenMember]
    split
    · rename_i hallOf
      subst hallOf
      refine (ofMembers?_allOf _ ms).trans ?_
      rw [harr vs rfl, ofMembers?_allOf]
    · rfl
  | obj ps =>
    obtain ⟨hnamed, hmembers⟩ := hobj ps rfl
    rw [writtenMember]
    split
    · rename_i hproperties
      subst hproperties
      refine (ofMembers?_properties _ ms).trans ?_
      rw [hnamed, ofMembers?_properties]
    split
    · rename_i hitems
      subst hitems
      refine (ofMembers?_items (by simp) ms).trans ?_
      rw [ofMembers?_items (by simp), ofJson?, hmembers, ofJson?]
    · rfl
  | bool b => rfl
  | str text => rfl

mutual

/-- A raw value is read in the same way in its written form. -/
theorem ofJson?_written (x : Json) (hx : x.Sorted) : ofJson? (written x) = ofJson? x := by
  match x, hx with
  | .obj ms, .obj ascending members =>
    rw [written, ofJson?, ofJson?]
    exact ofMembers?_writtenMembers ms ascending members
  | .null, _ | .bool _, _ | .num _, _ | .str _, _ | .arr _, _ => rfl

theorem ofMembers?_writtenMembers (ms : List (String × Json)) (ascending : KeyMap.Sorted ms)
    (members : ∀ m ∈ ms, m.2.Sorted) : ofMembers? (writtenMembers ms) = ofMembers? ms := by
  match ms, ascending, members with
  | [], _, _ => rw [writtenMembers]
  | (key, v) :: ms, ascending, members =>
    obtain ⟨hv, hms⟩ := List.forall_mem_cons.1 members
    rw [writtenMembers, ofMembers?_append_congr (ofMembers?_writtenMembers ms ascending.tail hms)]
    refine ofMembers?_writtenMember ascending.head_notMem (fun ps hps => ?_) (fun vs hvs => ?_)
    · subst hps
      obtain ⟨hps, hp⟩ := Json.sorted_obj_iff.1 hv
      exact ⟨named?_writtenNamed ps hp, ofMembers?_writtenMembers ps hps hp⟩
    · subst hvs
      exact list?_writtenList vs (Json.sorted_arr_iff.1 hv)

theorem named?_writtenNamed (ps : List (String × Json)) (hps : ∀ p ∈ ps, p.2.Sorted) :
    named? (writtenNamed ps) = named? ps := by
  match ps, hps with
  | [], _ => rw [writtenNamed]
  | (name, v) :: ps, hps =>
    obtain ⟨hv, hps⟩ := List.forall_mem_cons.1 hps
    rw [writtenNamed, named?, named?, ofJson?_written v hv, named?_writtenNamed ps hps]

theorem list?_writtenList (vs : List Json) (hvs : ∀ v ∈ vs, v.Sorted) :
    list? (writtenList vs) = list? vs := by
  match vs, hvs with
  | [], _ => rw [writtenList]
  | v :: vs, hvs =>
    obtain ⟨hv, hvs⟩ := List.forall_mem_cons.1 hvs
    rw [writtenList, list?, list?, ofJson?_written v hv, list?_writtenList vs hvs]

end

/-! ## What a schema is written as -/

/-- The keywords whose values have another written form. -/
def reshaped : List String := holders ++ ["minimum", "maximum"]

/-- What is neither null under a keyword nor the value of one of these stays. -/
theorem writtenMember_of_notMem {key : String} {v : Json} (hkey : key ∉ reshaped)
    (hv : v ≠ .null ∨ key ∉ keywords) : writtenMember key v = some v := by
  simp only [reshaped, holders, List.cons_append, List.nil_append, List.mem_cons, List.not_mem_nil,
    or_false, not_or] at hkey
  cases v with
  | null =>
    rw [writtenMember, if_neg (hv.resolve_left fun h => h rfl)]
  | _ => simp [writtenMember, hkey]

theorem toJson_of_typeDecl {v : Json} {t : TypeDecl} (h : TypeDecl.ofJson? v = some t) :
    t.toJson = v := by
  cases v with
  | str name =>
    cases h
    rfl
  | arr vs =>
    obtain ⟨names, hnames, rfl⟩ := Option.map_eq_some_iff.1 h
    exact Json.strs_of_strs? hnames
  | _ => cases h

theorem nat_of_count? {v : Json} {n : Nat} (h : Json.count? v = some n) : Json.nat n = v := by
  unfold Json.count? at h
  split at h
  · split at h
    · rename_i i hi
      cases h
      rw [Json.nat, Int.toNat_of_nonneg hi.1]
    · cases h
  · cases h

/-- A number under `minimum` or `maximum` is written as the double that was read. -/
theorem ofBinary64_of_binary64? {key : String} (hkey : key = "minimum" ∨ key = "maximum") {v : Json}
    (hv : v.Proper) {x : Binary64} (h : v.binary64? = some x) :
    writtenMember key v = some (.ofBinary64 x) := by
  cases hv with
  | @num n proper =>
    cases h
    rw [writtenMember, if_pos hkey, Json.ofBinary64, if_pos proper.isFinite]
  | _ => cases h

/-- A keyword that was read is written as the written form of its value, if this is so for all but
null. -/
theorem map_keyword? {α : Type} {read? : Json → Option α} {write : α → Json} {key : String}
    {v : Json} {o : Option α} (h : Facets.keyword? read? v = some o) (hkey : key ∈ keywords)
    (hread : ∀ a, read? v = some a → writtenMember key v = some (write a)) :
    o.map write = writtenMember key v := by
  cases v with
  | null =>
    cases h
    rw [writtenMember, if_pos hkey]
    rfl
  | _ =>
    obtain ⟨a, ha, rfl⟩ := Option.map_eq_some_iff.1 h
    exact (hread a ha).symm

/-- The same for keywords whose values stay as they are. -/
theorem map_keyword?_self {α : Type} {read? : Json → Option α} {write : α → Json} {key : String}
    {v : Json} {o : Option α} (h : Facets.keyword? read? v = some o) (hkey : key ∈ keywords)
    (hplain : key ∉ reshaped) (hread : ∀ a, read? v = some a → write a = v)
    (hnull : read? .null = none) : o.map write = writtenMember key v := by
  refine map_keyword? h hkey fun a ha => ?_
  rw [writtenMember_of_notMem hplain (.inl _), hread a ha]
  rintro rfl
  rw [hnull] at ha
  cases ha

/-- A keyword that holds no schema is written as the written form of its value. -/
theorem member?_withMember? {key : String} {v : Json} (hv : v.Proper) (hkey : key ∉ holders)
    {f g : Facets} (h : f.withMember? key v = some g) : g.member? key = writtenMember key v := by
  unfold Facets.withMember? at h
  split at h
  case h_10 =>
    cases h
    have hother : key ∉ Facets.keywords := by simp_all [Facets.keywords]
    rw [Facets.member?_of_notMem hother, KeyMap.lookup_put, if_pos rfl, writtenMember_of_notMem]
    · simp_all [reshaped]
    · simp_all [keywords]
  all_goals obtain ⟨o, ho, rfl⟩ := Option.map_eq_some_iff.1 h
  case h_1 => exact map_keyword?_self ho (by decide) (by decide) (fun _ => toJson_of_typeDecl) rfl
  case h_2 =>
    refine map_keyword?_self ho (by decide) (by decide) (fun _ ha => ?_) rfl
    cases v with
    | arr vs => exact Json.strs_of_strs? ha
    | _ => cases ha
  case h_3 =>
    refine map_keyword?_self ho (by decide) (by decide) (fun _ ha => ?_) rfl
    cases v with
    | arr vs =>
      cases ha
      rfl
    | _ => cases ha
  case h_4 | h_5 =>
    exact map_keyword? ho (by decide) fun _ => ofBinary64_of_binary64? (by simp) hv
  all_goals exact map_keyword?_self ho (by decide) (by decide) (fun _ => nat_of_count?) rfl

/-- A member that was read is written in its written form, if what it holds is. -/
theorem WithMember.member?_self {key : String} {v : Json} {s t : Schema} (h : WithMember key v t s)
    (hv : v.Proper) (ht : t.member? key = none)
    (hnamed : ∀ ps qs, v = .obj ps → named? ps = some qs → namedToJson qs = writtenNamed ps)
    (hitem : ∀ i, ofJson? v = some i → toJson i = written v)
    (hlist : ∀ vs ss, v = .arr vs → list? vs = some ss → listToJson ss = writtenList vs) :
    s.member? key = writtenMember key v := by
  cases h with
  | absent hkey hnull hs =>
    subst hnull hs
    have hkeyword : key ∈ keywords := List.mem_append_left _ hkey
    rw [ht, writtenMember, if_pos hkeyword]
  | @properties ps qs hkey hobj hread hs =>
    subst hkey hobj hs
    rw [writtenMember, if_pos rfl, ← hnamed ps qs rfl hread]
    rfl
  | @items i hkey hnull hread hs =>
    subst hkey hs
    have hi := hitem i hread
    cases v with
    | obj ms =>
      rw [written] at hi
      rw [writtenMember, if_neg (by decide), if_pos rfl, ← hi]
      rfl
    | _ => cases hread
  | @allOf vs ss hkey harr hread hs =>
    subst hkey harr hs
    rw [writtenMember, if_pos rfl, ← hlist vs ss rfl hread]
    rfl
  | facet hkey hread hs =>
    subst hs
    rw [member?_of_notMem_holders hkey]
    exact member?_withMember? hv hkey hread

theorem ext_toJson {s : Schema} (hs : s.facets.Clean) {ms : List (String × Json)}
    (hms : KeyMap.Sorted ms) (h : ∀ name, s.member? name = ms.lookup name) :
    toJson s = .obj ms := by
  have hget := get?_toJson hs
  obtain ⟨f, ps, i, ss⟩ := s
  rw [toJson] at hget ⊢
  exact congrArg Json.obj ((KeyMap.sorted_ofList _).ext hms fun name => (hget name).trans (h name))

mutual

/-- A schema is written as the written form of what it was read from. -/
theorem toJson_of_ofJson? (x : Json) (hx : x.Sorted) (hp : x.Proper) {s : Schema}
    (h : ofJson? x = some s) : toJson s = written x := by
  obtain ⟨ms, rfl, h⟩ := of_ofJson? h
  obtain ⟨ascending, sorted⟩ := Json.sorted_obj_iff.1 hx
  have proper := Json.proper_obj_iff.1 hp
  obtain ⟨clean, -⟩ := clean_ofMembers? ms h
  rw [written]
  refine ext_toJson clean ?_ (member?_of_ofMembers? ms ascending sorted proper h)
  rw [writtenMembers_eq]
  exact ascending.filterMap writtenMember

theorem member?_of_ofMembers? (ms : List (String × Json)) (ascending : KeyMap.Sorted ms)
    (sorted : ∀ m ∈ ms, m.2.Sorted) (proper : ∀ m ∈ ms, m.2.Proper) {s : Schema}
    (h : ofMembers? ms = some s) (name : String) :
    s.member? name = (writtenMembers ms).lookup name := by
  match ms, ascending, sorted, proper with
  | [], _, _, _ => exact member?_of_notMem h List.not_mem_nil
  | (key, v) :: ms, ascending, sorted, proper =>
    obtain ⟨hv, sorted⟩ := List.forall_mem_cons.1 sorted
    obtain ⟨hp, proper⟩ := List.forall_mem_cons.1 proper
    obtain ⟨t, ht, hs⟩ := withMember_of_ofMembers? h
    have hrest := member?_of_ofMembers? ms ascending.tail sorted proper ht name
    rw [writtenMembers_eq, ascending.lookup_filterMap, KeyMap.lookup_cons_eq_ite]
    split
    · -- no later member has this name, so the schema has no value for it yet
      rename_i hname
      subst hname
      refine hs.member?_self hp (member?_of_notMem ht ascending.head_notMem) ?_ ?_ ?_
      · rintro ps qs rfl hqs
        exact namedToJson_of_named? ps (Json.sorted_obj_iff.1 hv).2 (Json.proper_obj_iff.1 hp) hqs
      · exact fun i hi => toJson_of_ofJson? v hv hp hi
      · rintro vs ss rfl hss
        exact listToJson_of_list? vs (Json.sorted_arr_iff.1 hv) (Json.proper_arr_iff.1 hp) hss
    · rename_i hname
      rw [hs.member?_of_ne hname, hrest, writtenMembers_eq, ascending.tail.lookup_filterMap]

theorem namedToJson_of_named? (ps : List (String × Json)) (sorted : ∀ p ∈ ps, p.2.Sorted)
    (proper : ∀ p ∈ ps, p.2.Proper) {qs : List (String × Schema)} (h : named? ps = some qs) :
    namedToJson qs = writtenNamed ps := by
  match ps, sorted, proper with
  | [], _, _ =>
    cases h
    rw [namedToJson, writtenNamed]
  | (name, v) :: ps, sorted, proper =>
    obtain ⟨hv, sorted⟩ := List.forall_mem_cons.1 sorted
    obtain ⟨hp, proper⟩ := List.forall_mem_cons.1 proper
    obtain ⟨s, rs, hs, hrs, rfl⟩ := of_named?_cons h
    rw [namedToJson, writtenNamed, toJson_of_ofJson? v hv hp hs,
      namedToJson_of_named? ps sorted proper hrs]

theorem listToJson_of_list? (vs : List Json) (sorted : ∀ v ∈ vs, v.Sorted)
    (proper : ∀ v ∈ vs, v.Proper) {ss : List Schema} (h : list? vs = some ss) :
    listToJson ss = writtenList vs := by
  match vs, sorted, proper with
  | [], _, _ =>
    cases h
    rw [listToJson, writtenList]
  | v :: vs, sorted, proper =>
    obtain ⟨hv, sorted⟩ := List.forall_mem_cons.1 sorted
    obtain ⟨hp, proper⟩ := List.forall_mem_cons.1 proper
    obtain ⟨s, ts, hs, hts, rfl⟩ := of_list?_cons h
    rw [listToJson, writtenList, toJson_of_ofJson? v hv hp hs,
      listToJson_of_list? vs sorted proper hts]

end

/-- **A schema survives being written**: what it is written as is read as the same schema, and is
the written form of the raw value that the schema was read from. At no depth does it keep a keyword
besides its fields. -/
theorem ofJson?_toJson {x : Json} (hx : x.Sorted) (hp : x.Proper) {s : Schema}
    (h : ofJson? x = some s) :
    ofJson? (toJson s) = some s ∧ toJson s = written x ∧ s.Throughout Facets.Clean := by
  have hwritten := toJson_of_ofJson? x hx hp h
  refine ⟨?_, hwritten, clean_ofJson? x h⟩
  rw [hwritten, ofJson?_written x hx, h]

/-- A draft with nulls in many places, a whole number as the least value of items, and a property
that is named like a keyword. -/
def draft : Json :=
  .obj [
    ("allOf", .arr [.obj [("items", .null), ("title", .null), ("type", .str "object")]]),
    ("default", .null),
    ("items", .obj [("minimum", .num (.int 1)), ("required", .null)]),
    ("maxLength", .null),
    ("properties", .obj [("type", .obj [("enum", .arr [.null]), ("type", .null)])]),
    ("required", .arr [])]

theorem ofJson?_toJson_draft :
    draft.Sorted ∧ draft.Proper ∧ ∃ s, ofJson? draft = some s ∧ ofJson? (toJson s) = some s ∧
      toJson s = .obj [
        ("allOf", .arr [.obj [("title", .null), ("type", .str "object")]]),
        ("default", .null),
        ("items", .obj [("minimum", .num (.real (.ofInt 1)))]),
        ("properties", .obj [("type", .obj [("enum", .arr [.null])])]),
        ("required", .arr [])] ∧
      s.Throughout Facets.Clean := by
  have hsorted : draft.Sorted := by
    simp only [draft, Json.sorted_obj_iff, Json.sorted_arr_iff, List.forall_mem_cons,
      List.not_mem_nil, false_implies, implies_true, Json.Sorted.null, Json.Sorted.num,
      Json.Sorted.str, and_true, true_and]
    decide
  have hproper : draft.Proper := by simp [draft, Number.Proper]
  obtain ⟨s, hs⟩ : ∃ s, ofJson? draft = some s := ⟨_, rfl⟩
  obtain ⟨hread, hwritten, hclean⟩ := ofJson?_toJson hsorted hproper hs
  refine ⟨hsorted, hproper, s, hs, hread, hwritten.trans ?_, hclean⟩
  rfl

end Schema

end Conform
