import Mathlib.Data.Nat.Cast.Defs

/-!
What makes numerals of a field and of `Fin` readable, under one name for each numeral.
-/

namespace Foundation.Numerals

scoped instance two : Nat.AtLeastTwo 2 :=
  inferInstance

scoped instance five : Nat.AtLeastTwo 5 :=
  inferInstance

scoped instance ten : Nat.AtLeastTwo 10 :=
  inferInstance

scoped instance sixteen : Nat.AtLeastTwo 16 :=
  inferInstance

scoped instance oneTwentyEight : Nat.AtLeastTwo 128 :=
  inferInstance

scoped instance twoFiftyFive : Nat.AtLeastTwo 255 :=
  inferInstance

scoped instance nine : @NeZero Nat Zero.ofOfNat0 9 :=
  ⟨Nat.succ_ne_zero 8⟩

end Foundation.Numerals
