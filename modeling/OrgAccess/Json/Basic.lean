import OrgAccess.Json.Double

/-!
# JSON values

A JSON value with integers and doubles kept apart. The members of an object are a list that the
library keeps in increasing order of keys with no key twice (`Json.Members`). `Json.same` is the
equality that conditions use: integers and doubles are never equal to each other, doubles compare
as numbers, and arrays and objects compare part by part. It is an equivalence (`same_refl`,
`same_comm`, `same_trans`).
-/

namespace OrgAccess

/-- A JSON value. -/
inductive Json where
  | null
  | bool (value : Bool)
  | integer (value : Int)
  | double (value : Json.Double)
  | string (text : String)
  | array (items : List Json)
  | object (members : List (String × Json))
deriving Inhabited

namespace Json

/-- The word for the type of a value. -/
def typeName : Json → String
  | null => "null"
  | bool _ => "boolean"
  | integer _ | double _ => "number"
  | string _ => "string"
  | array _ => "array"
  | object _ => "object"

/-- The text of a string value. -/
def string? : Json → Option String
  | string text => some text
  | _ => none

mutual

/-- Equality of values. -/
def same : Json → Json → Bool
  | null, null => true
  | bool a, bool b => a == b
  | integer a, integer b => a == b
  | double a, double b => a.same b
  | string a, string b => a == b
  | array xs, array ys => sameItems xs ys
  | object xs, object ys => sameMembers xs ys
  | _, _ => false

/-- Equality of arrays, item by item. -/
def sameItems : List Json → List Json → Bool
  | [], [] => true
  | x :: xs, y :: ys => x.same y && sameItems xs ys
  | _, _ => false

/-- Equality of objects whose members are in the same order of keys. -/
def sameMembers : List (String × Json) → List (String × Json) → Bool
  | [], [] => true
  | (k, x) :: xs, (l, y) :: ys => k == l && x.same y && sameMembers xs ys
  | _, _ => false

end

/-- Values are compared with `same` wherever they are compared. -/
instance : BEq Json := ⟨same⟩

/-! ## Laws of equality -/

/-- The comparison of values is `same`. -/
theorem beq_eq_same (a b : Json) : (a == b) = a.same b := rfl

mutual

/-- Every value is equal to itself. -/
theorem same_refl : (a : Json) → a.same a = true
  | null => rfl
  | bool _ => by simp [same]
  | integer _ => by simp [same]
  | double _ => by simp [same]
  | string _ => by simp [same]
  | array xs => by simpa [same] using sameItems_refl xs
  | object xs => by simpa [same] using sameMembers_refl xs

/-- Every array has the items that it has. -/
theorem sameItems_refl : (xs : List Json) → sameItems xs xs = true
  | [] => rfl
  | x :: xs => by simp [sameItems, same_refl x, sameItems_refl xs]

/-- Every object has the members that it has. -/
theorem sameMembers_refl : (xs : List (String × Json)) → sameMembers xs xs = true
  | [] => rfl
  | (k, x) :: xs => by simp [sameMembers, same_refl x, sameMembers_refl xs]

end

mutual

/-- Equality does not depend on which of two values comes first. -/
theorem same_comm : (a b : Json) → a.same b = b.same a
  | null, b => by cases b <;> rfl
  | bool _, b => by cases b <;> simp [same, BEq.comm]
  | integer _, b => by cases b <;> simp [same, BEq.comm]
  | double x, b => by cases b <;> simp [same, Double.same_comm x]
  | string _, b => by cases b <;> simp [same, BEq.comm]
  | array xs, b => by
      cases b with
      | array ys => simpa [same] using sameItems_comm xs ys
      | _ => rfl
  | object xs, b => by
      cases b with
      | object ys => simpa [same] using sameMembers_comm xs ys
      | _ => rfl

/-- Equality of arrays does not depend on which of the two comes first. -/
theorem sameItems_comm : (xs ys : List Json) → sameItems xs ys = sameItems ys xs
  | [], [] => rfl
  | [], _ :: _ => rfl
  | _ :: _, [] => rfl
  | x :: xs, y :: ys => by simp [sameItems, same_comm x y, sameItems_comm xs ys]

/-- Equality of objects does not depend on which of the two comes first. -/
theorem sameMembers_comm :
    (xs ys : List (String × Json)) → sameMembers xs ys = sameMembers ys xs
  | [], [] => rfl
  | [], _ :: _ => rfl
  | _ :: _, [] => rfl
  | (k, x) :: xs, (l, y) :: ys => by
      simp [sameMembers, same_comm x y, sameMembers_comm xs ys, BEq.comm]

end

mutual

/-- Values that are equal to a third one are equal. -/
theorem same_trans : (a b c : Json) → a.same b = true → b.same c = true → a.same c = true
  | null, b, c, hab, hbc => by cases b <;> cases c <;> simp_all [same]
  | bool _, b, c, hab, hbc => by cases b <;> cases c <;> simp_all [same]
  | integer _, b, c, hab, hbc => by cases b <;> cases c <;> simp_all [same]
  | double _, b, c, hab, hbc => by
      cases b <;> cases c <;> simp_all [same]
      exact Double.same_trans hab hbc
  | string _, b, c, hab, hbc => by cases b <;> cases c <;> simp_all [same]
  | array xs, b, c, hab, hbc => by
      cases b <;> cases c <;> simp_all [same]
      exact sameItems_trans xs _ _ hab hbc
  | object xs, b, c, hab, hbc => by
      cases b <;> cases c <;> simp_all [same]
      exact sameMembers_trans xs _ _ hab hbc

/-- Arrays that have the items of a third one have the same items. -/
theorem sameItems_trans : (xs ys zs : List Json) →
    sameItems xs ys = true → sameItems ys zs = true → sameItems xs zs = true
  | [], [], _, _, hyz => hyz
  | x :: xs, y :: ys, z :: zs, hxy, hyz => by
      simp only [sameItems, Bool.and_eq_true] at hxy hyz ⊢
      exact ⟨same_trans x y z hxy.1 hyz.1, sameItems_trans xs ys zs hxy.2 hyz.2⟩
  | [], _ :: _, _, hxy, _ => by simp [sameItems] at hxy
  | _ :: _, [], _, hxy, _ => by simp [sameItems] at hxy
  | _ :: _, _ :: _, [], _, hyz => by simp [sameItems] at hyz

/-- Objects that have the members of a third one have the same members. -/
theorem sameMembers_trans : (xs ys zs : List (String × Json)) →
    sameMembers xs ys = true → sameMembers ys zs = true → sameMembers xs zs = true
  | [], [], _, _, hyz => hyz
  | (k, x) :: xs, (l, y) :: ys, (m, z) :: zs, hxy, hyz => by
      simp only [sameMembers, Bool.and_eq_true, beq_iff_eq] at hxy hyz ⊢
      exact ⟨⟨hxy.1.1.trans hyz.1.1, same_trans x y z hxy.1.2 hyz.1.2⟩,
        sameMembers_trans xs ys zs hxy.2 hyz.2⟩
  | [], _ :: _, _, hxy, _ => by simp [sameMembers] at hxy
  | _ :: _, [], _, hxy, _ => by simp [sameMembers] at hxy
  | _ :: _, _ :: _, [], _, hyz => by simp [sameMembers] at hyz

end

/-- The comparison of values is an equivalence. -/
instance : EquivBEq Json where
  symm {a b} h := (same_comm b a).trans h
  trans {a b c} hab hbc := same_trans a b c hab hbc
  rfl {a} := same_refl a

end Json

end OrgAccess
