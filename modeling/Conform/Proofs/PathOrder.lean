import Conform.Proofs.Path

/-!
# The order of paths in terms of bytes

Names are compared by the bytes of their UTF-8 form, and steps and paths accordingly
(`Segment.Before`, `Path.Before`). The code point of a character decides the first byte in which its
form differs from that of another one, and no form begins another one (`encode_append_lt`), so this
is the order of code points in which maps and paths are kept.

* `lt_iff_bytes_lt`: names by code points are names by bytes.
* `Path.before_iff_lt`: so are paths.
-/

set_option autoImplicit false

namespace Conform

/-! ## Names -/

namespace Utf8

/-- The bytes of a text. -/
def bytes (s : String) : List UInt8 := s.toUTF8.data.toList

theorem bytes_eq (s : String) : bytes s = s.toList.flatMap String.utf8EncodeChar := by
  have h : s.toList.utf8Encode = s.toByteArray := String.utf8Encode_toList
  rw [bytes, String.toUTF8, ← h, List.utf8Encode, List.data_toByteArray]

theorem toNat_byte {n : Nat} (h : n < 256) : (UInt8.ofNat n).toNat = n := by
  rw [UInt8.toNat_ofNat', Nat.mod_eq_of_lt h]

theorem byte_lt_iff {m n : Nat} (hm : m < 256) (hn : n < 256) :
    UInt8.ofNat m < UInt8.ofNat n ↔ m < n := by
  rw [UInt8.lt_iff_toNat_lt, toNat_byte hm, toNat_byte hn]

theorem byte_eq_iff {m n : Nat} (hm : m < 256) (hn : n < 256) :
    UInt8.ofNat m = UInt8.ofNat n ↔ m = n := by
  rw [← UInt8.toNat_inj, toNat_byte hm, toNat_byte hn]

/-- The bytes of a character come before those of a later one, whatever follows. -/
theorem encode_append_lt {c d : Char} (h : c < d) (xs ys : List UInt8) :
    String.utf8EncodeChar c ++ xs < String.utf8EncodeChar d ++ ys := by
  have hlt : c.val.toNat < d.val.toNat := h
  have hd : d.val.toNat < 1114112 := by
    rcases d.valid with hv | hv
    · have : d.val.toNat < 55296 := hv
      omega
    · exact hv.2
  unfold String.utf8EncodeChar
  generalize c.val.toNat = v at hlt
  generalize d.val.toNat = w at hlt hd
  have h2 : ∀ n, n / 4096 = n / 64 / 64 := by omega
  have h3 : ∀ n, n / 262144 = n / 64 / 64 / 64 := by omega
  dsimp only
  -- one case for each pair of lengths; in base 64 the first different digit decides
  repeat' split
  all_goals
    simp only [List.cons_append, List.nil_append, List.cons_lt_cons_iff]
    simp (disch := omega) only [byte_lt_iff, byte_eq_iff, h2, h3]
    omega

theorem flatMap_encode_lt {cs ds : List Char} (h : cs < ds) :
    cs.flatMap String.utf8EncodeChar < ds.flatMap String.utf8EncodeChar := by
  induction cs generalizing ds with
  | nil =>
    cases ds with
    | nil => exact absurd h (List.lt_irrefl _)
    | cons d ds =>
      obtain ⟨b, bs, hb⟩ := List.exists_cons_of_ne_nil (String.utf8EncodeChar_ne_nil (c := d))
      rw [List.flatMap_nil, List.flatMap_cons, hb]
      exact List.nil_lt_cons _ _
  | cons c cs ih =>
    cases ds with
    | nil => cases h
    | cons d ds =>
      rw [List.flatMap_cons, List.flatMap_cons]
      rcases List.cons_lt_cons_iff.1 h with hc | ⟨rfl, hc⟩
      · exact encode_append_lt hc _ _
      · exact List.append_left_lt (ih hc)

theorem lt_iff_bytes_lt (s t : String) : s < t ↔ bytes s < bytes t := by
  have hmono : ∀ {s t : String}, s < t → bytes s < bytes t := fun {s t} h => by
    rw [bytes_eq, bytes_eq]
    exact flatMap_encode_lt h
  refine ⟨hmono, fun h => ?_⟩
  apply Classical.byContradiction
  intro hst
  by_cases hts : t < s
  · exact List.lt_asymm h (hmono hts)
  · have he : s = t := String.le_antisymm (String.not_lt.1 hts) (String.not_lt.1 hst)
    exact List.lt_irrefl _ (he ▸ h)

end Utf8

/-! ## Steps and paths -/

/-- A step comes before another one: fields before indices, and indices before items. -/
inductive Segment.Before : Segment → Segment → Prop
  | field {a b : String} (h : Utf8.bytes a < Utf8.bytes b) : Before (.field a) (.field b)
  | field_index (a : String) (i : Nat) : Before (.field a) (.index i)
  | field_items (a : String) : Before (.field a) .items
  | index {i j : Nat} (h : i < j) : Before (.index i) (.index j)
  | index_items (i : Nat) : Before (.index i) .items

/-- A path comes before another one: it ends first, or the first different step decides. -/
inductive Path.Before : Path → Path → Prop
  | ends (p : Path) (s : Segment) (q : Path) : Before p (p ++ s :: q)
  | turns (p : Path) {s t : Segment} (h : s.Before t) (q r : Path) :
    Before (p ++ s :: q) (p ++ t :: r)

theorem Segment.before_iff_lt {s t : Segment} : s.Before t ↔ s.lt t = true := by
  constructor
  · intro h
    cases h with
    | field h => exact decide_eq_true ((Utf8.lt_iff_bytes_lt _ _).2 h)
    | field_index a i => rfl
    | field_items a => rfl
    | index h => exact decide_eq_true h
    | index_items i => rfl
  · intro h
    match s, t with
    | field a, field b => exact .field ((Utf8.lt_iff_bytes_lt a b).1 (of_decide_eq_true h))
    | field a, index i => exact .field_index a i
    | field a, items => exact .field_items a
    | index i, index j => exact .index (of_decide_eq_true h)
    | index i, items => exact .index_items i
    | index _, field _ | items, field _ | items, index _ | items, items => cases h

namespace Path

theorem lt_append_left (p : Path) {q r : Path} (h : q.lt r = true) :
    (p ++ q).lt (p ++ r) = true := by
  induction p with
  | nil => exact h
  | cons s p ih => exact lt_cons_iff.2 (.inr ⟨rfl, ih⟩)

/-- A path comes before those that it begins. -/
theorem lt_of_prefix {p q : Path} (h : p <+: q) (hne : p ≠ q) : p.lt q = true := by
  obtain ⟨r, rfl⟩ := h
  cases r with
  | nil => exact absurd (List.append_nil p).symm hne
  | cons s r =>
    have hlt := lt_append_left p (q := []) (r := s :: r) rfl
    rwa [List.append_nil] at hlt

theorem Before.cons {p q : Path} (h : p.Before q) (s : Segment) : Before (s :: p) (s :: q) := by
  cases h with
  | ends => exact .ends (s :: p) _ _
  | turns p h => exact .turns (s :: p) h _ _

/-- **The order of paths** is the one by bytes. -/
theorem before_iff_lt {p q : Path} : p.Before q ↔ p.lt q = true := by
  constructor
  · intro h
    cases h with
    | ends => exact lt_of_prefix (List.prefix_append _ _) (by simp)
    | turns p h => exact lt_append_left p (lt_cons_iff.2 (.inl (Segment.before_iff_lt.1 h)))
  · intro h
    induction p generalizing q with
    | nil =>
      cases q with
      | nil => cases h
      | cons t q => exact .ends [] t q
    | cons s p ih =>
      cases q with
      | nil => cases h
      | cons t q =>
        rcases lt_cons_iff.1 h with hs | ⟨rfl, hp⟩
        · exact .turns [] (Segment.before_iff_lt.2 hs) p q
        · exact (ih hp).cons s

end Path

end Conform
