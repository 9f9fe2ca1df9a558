import Conform.Proofs.Schema.Sorted

/-!
# Values without an order of members

Two objects that list the same members in another order are the same value of JSON. `Json.inOrder`
lists them in ascending order of their names, as they are after reading, so values are compared as
`inOrder` puts them.

* `inOrder_of_sorted`: a value that is in this order stays as it is.
-/

set_option autoImplicit false

namespace Conform.Json

/-! ## Equal values -/

theorem beq_eq_same (v w : Json) : (v == w) = v.same w := rfl

@[simp] theorem same_bool (a b : Bool) : (bool a).same (bool b) = (a == b) := by rw [same]

@[simp] theorem same_num (m n : Number) : (num m).same (num n) = m.same n := by rw [same]

@[simp] theorem same_str (s t : String) : (str s).same (str t) = (s == t) := by rw [same]

@[simp] theorem same_arr (vs ws : List Json) : (arr vs).same (arr ws) = sameItems vs ws := by
  rw [same]

@[simp] theorem same_obj (ms ns : List (String × Json)) :
    (obj ms).same (obj ns) = sameMembers ms ns := by rw [same]

@[simp] theorem same_nat (m n : Nat) : (nat m).same (nat n) = (m == n) := by
  rw [nat, nat, same_num, Number.same, Bool.eq_iff_iff, beq_iff_eq, beq_iff_eq, Int.natCast_inj]

/-! ## The order of members -/

mutual

/-- The value with the members of its objects in ascending order of their names. -/
def inOrder : Json → Json
  | arr vs => arr (inOrderItems vs)
  | obj ms => obj (KeyMap.ofList (inOrderMembers ms))
  | v => v

/-- The items in that form. -/
def inOrderItems : List Json → List Json
  | [] => []
  | v :: vs => inOrder v :: inOrderItems vs

/-- The values of members in that form, in the order in which they are listed. -/
def inOrderMembers : List (String × Json) → List (String × Json)
  | [] => []
  | (name, v) :: ms => (name, inOrder v) :: inOrderMembers ms

end

theorem inOrder_arr (vs : List Json) : (arr vs).inOrder = arr (vs.map inOrder) := by
  have h : ∀ vs, inOrderItems vs = vs.map inOrder := by
    intro vs
    induction vs with
    | nil => rw [inOrderItems, List.map_nil]
    | cons v vs ih => rw [inOrderItems, ih, List.map_cons]
  rw [inOrder, h]

theorem inOrder_obj (ms : List (String × Json)) :
    (obj ms).inOrder = obj (KeyMap.ofList (ms.map fun m => (m.1, m.2.inOrder))) := by
  have h : ∀ ms, inOrderMembers ms = ms.map fun m => (m.1, m.2.inOrder) := by
    intro ms
    induction ms with
    | nil => rw [inOrderMembers, List.map_nil]
    | cons m ms ih => rw [inOrderMembers, ih, List.map_cons]
  rw [inOrder, h]

/-- An object that lists its members in order. -/
theorem inOrder_obj_of_sorted {ms : List (String × Json)} (h : KeyMap.Sorted ms) :
    (obj ms).inOrder = obj (ms.map fun m => (m.1, m.2.inOrder)) := by
  rw [inOrder_obj, KeyMap.ofList_of_sorted (h.map inOrder)]

theorem inOrder_of_sorted {v : Json} (h : v.Sorted) : v.inOrder = v := by
  induction h with
  | null | bool | num | str => rw [inOrder] <;> simp
  | arr _ ih => rw [inOrder_arr, List.map_congr_left ih, List.map_id']
  | @obj ms ascending _ ih =>
    have hmember : ∀ m ∈ ms, (m.1, m.2.inOrder) = m := fun m hm => Prod.ext rfl (ih m hm)
    rw [inOrder_obj_of_sorted ascending, List.map_congr_left hmember, List.map_id']

end Conform.Json
