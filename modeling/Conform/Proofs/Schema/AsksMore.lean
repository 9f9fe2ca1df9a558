import Conform.Proofs.Schema.Merge

/-!
# Asking for more required names

`AsksMore s t` says that `t` is `s` with more names in its lists `required`, at any depth, where a
list may also be new. Nothing else differs. Merging and normalizing keep this, and so does leaving
out properties.

* `AsksMore.merge`, `AsksMore.normalize`, `NamedAskMore.prune`: what keeps the relation.
-/

set_option autoImplicit false

namespace Conform

/-- The same keywords but for more required names. -/
structure Facets.AsksMore (f g : Facets) : Prop where
  rest : g = { f with required := g.required }
  required : ∀ name ∈ f.required.getD [], name ∈ g.required.getD []

namespace Facets.AsksMore

variable {f g f' g' : Facets}

theorem refl (f : Facets) : f.AsksMore f := ⟨rfl, fun _ h => h⟩

theorem merge (h : f.AsksMore g) (h' : f'.AsksMore g') : (f.merge f').AsksMore (g.merge g') := by
  have hnames : ∀ a b : Option (List String), (joinLists a b).getD [] = a.getD [] ++ b.getD [] := by
    intro a b
    cases b with
    | none => exact (List.append_nil _).symm
    | some bs => rfl
  refine ⟨?_, fun name hn => ?_⟩
  · rw [h.rest, h'.rest]
    rfl
  · rw [Facets.merge, hnames, List.mem_append] at hn ⊢
    exact hn.imp (h.required name) (h'.required name)

end Facets.AsksMore

namespace Schema

mutual

/-- The second schema is the first one with more required names. -/
inductive AsksMore : Schema → Schema → Prop
  | intro {f g : Facets} {ps qs : Option (List (String × Schema))} {i j : Option Schema}
    {a b : Option (List Schema)} (facets : f.AsksMore g) (properties : PropertiesAskMore ps qs)
    (items : ItemsAskMore i j) (allOf : AllOfAsksMore a b) : AsksMore ⟨f, ps, i, a⟩ ⟨g, qs, j, b⟩

/-- The same for properties, which are there in both or in neither. -/
inductive PropertiesAskMore :
    Option (List (String × Schema)) → Option (List (String × Schema)) → Prop
  | none : PropertiesAskMore none none
  | some {ps qs : List (String × Schema)} (named : NamedAskMore ps qs) :
    PropertiesAskMore (some ps) (some qs)

/-- The same for the schema of the items. -/
inductive ItemsAskMore : Option Schema → Option Schema → Prop
  | none : ItemsAskMore none none
  | some {i j : Schema} (item : AsksMore i j) : ItemsAskMore (some i) (some j)

/-- The same for the schemas that apply as well. -/
inductive AllOfAsksMore : Option (List Schema) → Option (List Schema) → Prop
  | none : AllOfAsksMore none none
  | some {ss ts : List Schema} (entries : ListAsksMore ss ts) : AllOfAsksMore (some ss) (some ts)

/-- The same for schemas under the same names. -/
inductive NamedAskMore : List (String × Schema) → List (String × Schema) → Prop
  | nil : NamedAskMore [] []
  | cons {s t : Schema} {ps qs : List (String × Schema)} (name : String) (head : AsksMore s t)
    (tail : NamedAskMore ps qs) : NamedAskMore ((name, s) :: ps) ((name, t) :: qs)

/-- The same for schemas one by one. -/
inductive ListAsksMore : List Schema → List Schema → Prop
  | nil : ListAsksMore [] []
  | cons {s t : Schema} {ss ts : List Schema} (head : AsksMore s t) (tail : ListAsksMore ss ts) :
    ListAsksMore (s :: ss) (t :: ts)

end

variable {ps qs ps' qs' : List (String × Schema)}

theorem PropertiesAskMore.getD {p q : Option (List (String × Schema))}
    (h : PropertiesAskMore p q) : NamedAskMore (p.getD []) (q.getD []) := by
  cases h with
  | none => exact .nil
  | some named => exact named

theorem asksMore_empty : AsksMore empty empty := .intro (.refl _) .none .none .none

/-! ## Maps -/

theorem NamedAskMore.prune (h : NamedAskMore ps qs) (blackList : List String) :
    NamedAskMore (Conform.prune blackList ps) (Conform.prune blackList qs) := by
  induction ps generalizing qs with
  | nil =>
    cases h
    exact .nil
  | cons p ps ih =>
    cases h with
    | cons name head tail =>
      rw [Conform.prune, Conform.prune, List.filter_cons, List.filter_cons]
      split
      · exact .cons name head (ih tail)
      · exact ih tail

theorem NamedAskMore.alter {f g : Option Schema → Schema} (h : NamedAskMore ps qs) (key : String)
    (hnone : AsksMore (f none) (g none))
    (hsome : ∀ s t, AsksMore s t → AsksMore (f (some s)) (g (some t))) :
    NamedAskMore (KeyMap.alter key f ps) (KeyMap.alter key g qs) := by
  induction ps generalizing qs with
  | nil =>
    cases h
    exact .cons key hnone .nil
  | cons p ps ih =>
    cases h with
    | cons name head tail =>
      rw [KeyMap.alter, KeyMap.alter]
      split
      · exact .cons key hnone (.cons name head tail)
      · split
        · exact .cons name (hsome _ _ head) tail
        · exact .cons name head (ih tail)

/-! ## Merging and normalizing -/

theorem AllOfAsksMore.joinLists {a b a' b' : Option (List Schema)} (h : AllOfAsksMore a b)
    (h' : AllOfAsksMore a' b') : AllOfAsksMore (joinLists a a') (Conform.joinLists b b') := by
  have happend : ∀ ss ts us vs, ListAsksMore ss ts → ListAsksMore us vs →
      ListAsksMore (ss ++ us) (ts ++ vs) := by
    intro ss
    induction ss with
    | nil =>
      intro ts us vs h h'
      cases h
      exact h'
    | cons s ss ih =>
      intro ts us vs h h'
      cases h with
      | cons head tail => exact .cons head (ih _ _ _ tail h')
  cases h' with
  | none => exact h
  | some entries' =>
    cases h with
    | none => exact .some entries'
    | some entries => exact .some (happend _ _ _ _ entries entries')

mutual

theorem AsksMore.merge (t t' s s' : Schema) (ht : AsksMore t t') (hs : AsksMore s s') :
    AsksMore (Schema.merge t s) (Schema.merge t' s') := by
  match s, hs with
  | ⟨_, ps, i, _⟩, .intro facets properties items allOf =>
    cases ht with
    | intro facets' properties' items' allOf' =>
      rw [Schema.merge, Schema.merge]
      exact .intro (facets'.merge facets) (PropertiesAskMore.merge _ _ ps _ properties' properties)
        (ItemsAskMore.merge _ _ i _ items' items) (allOf'.joinLists allOf)

theorem PropertiesAskMore.merge (t t' ps ps' : Option (List (String × Schema)))
    (ht : PropertiesAskMore t t') (hs : PropertiesAskMore ps ps') :
    PropertiesAskMore (mergeProperties t ps) (mergeProperties t' ps') := by
  match ps, hs with
  | none, .none => rwa [mergeProperties, mergeProperties]
  | some ps, .some named =>
    rw [mergeProperties, mergeProperties]
    exact .some (NamedAskMore.merge _ _ ps _ ht.getD named)

theorem ItemsAskMore.merge (t t' i i' : Option Schema) (ht : ItemsAskMore t t')
    (hs : ItemsAskMore i i') : ItemsAskMore (mergeItems t i) (mergeItems t' i') := by
  match i, hs with
  | none, .none => rwa [mergeItems, mergeItems]
  | some i, .some item =>
    rw [mergeItems, mergeItems]
    cases ht with
    | none => exact .some item
    | some item' => exact .some (AsksMore.merge _ _ i _ item' item)

theorem NamedAskMore.merge (t t' ps ps' : List (String × Schema)) (ht : NamedAskMore t t')
    (hs : NamedAskMore ps ps') : NamedAskMore (mergeNamed t ps) (mergeNamed t' ps') := by
  match ps, hs with
  | [], .nil => rwa [mergeNamed, mergeNamed]
  | (_, s) :: ps, .cons name head tail =>
    rw [mergeNamed, mergeNamed]
    refine NamedAskMore.merge _ _ ps _ (ht.alter name head fun u v huv => ?_) tail
    exact AsksMore.merge u v s _ huv head

end

mutual

theorem AsksMore.normalize (s t : Schema) (h : AsksMore s t) :
    AsksMore s.normalize t.normalize := by
  match s, h with
  | ⟨_, _, _, none⟩, .intro facets properties items .none =>
    rw [Schema.normalize, Schema.normalize]
    exact .intro facets properties items .none
  | ⟨_, _, _, some entries⟩, .intro facets properties items (.some more) =>
    rw [Schema.normalize, Schema.normalize]
    exact AsksMore.merge _ _ _ _ (ListAsksMore.normalizeOnto _ _ entries _ asksMore_empty more)
      (.intro facets properties items .none)

theorem ListAsksMore.normalizeOnto (u v : Schema) (ss ts : List Schema) (hu : AsksMore u v)
    (h : ListAsksMore ss ts) :
    AsksMore (Schema.normalizeOnto u ss) (Schema.normalizeOnto v ts) := by
  match ss, h with
  | [], .nil => rwa [Schema.normalizeOnto, Schema.normalizeOnto]
  | s :: ss, .cons head tail =>
    rw [Schema.normalizeOnto, Schema.normalizeOnto]
    exact ListAsksMore.normalizeOnto _ _ ss _
      (AsksMore.merge _ _ _ _ hu (AsksMore.normalize s _ head)) tail

end

end Schema

end Conform
