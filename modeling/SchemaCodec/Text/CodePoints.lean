/-! # Sets of code points

A set of code points is written as the ascending list of points at which membership changes: the
first point opens the first range, the second is the first one past it, and so on. A code point
belongs to the set when an odd number of changes lie at or before it.
-/
namespace SchemaCodec.Text

abbrev CodePoints := List Nat

/-- Membership after the first change has the opposite sense of membership before it. -/
def CodePoints.contains : CodePoints → Nat → Bool
  | [], _ => false
  | p :: rest, n => if p ≤ n then !CodePoints.contains rest n else false

theorem forall_ascii {P : Char → Prop} (h : ∀ n < 128, P (Char.ofNat n)) {c : Char}
    (hc : c.toNat < 128) : P c := by
  have hn := h c.toNat hc
  rwa [Char.ofNat_toNat] at hn

end SchemaCodec.Text
