import Mathlib.Algebra.GroupWithZero.Nat
import Mathlib.Data.Nat.Cast.Defs

/-!
# Literals

The instances behind the literals of `Fin n` and of ordered fields, each as one constant, so that
a literal is the same term in every module.
-/

namespace HandLab.Lib

instance neZero_three : NeZero 3 := ⟨nofun⟩

instance neZero_four : NeZero 4 := ⟨nofun⟩

instance neZero_six : NeZero 6 := ⟨nofun⟩

instance atLeastTwo_two : Nat.AtLeastTwo 2 := ⟨Nat.le_refl 2⟩

instance atLeastTwo_three : Nat.AtLeastTwo 3 := ⟨by decide⟩

instance atLeastTwo_four : Nat.AtLeastTwo 4 := ⟨by decide⟩

instance atLeastTwo_nine : Nat.AtLeastTwo 9 := ⟨by decide⟩

instance atLeastTwo_ten : Nat.AtLeastTwo 10 := ⟨by decide⟩

instance atLeastTwo_eleven : Nat.AtLeastTwo 11 := ⟨by decide⟩

instance atLeastTwo_twenty : Nat.AtLeastTwo 20 := ⟨by decide⟩

end HandLab.Lib
