import ColorMarkup.Color.Basic
import ColorMarkup.Proofs.Binary32.Unit

/-!
# ColorMarkup.Proofs.Color.Channel

The channels of a color, and the numbers that they can be counted with: no
operation on a level overflows.
-/

namespace ColorMarkup

/-! ## Channels -/

/-- The channels of a color. -/
inductive Channel where
  | red
  | green
  | blue
deriving DecidableEq, Repr

namespace Color

/-- The level of a channel. -/
def channel (color : Color) : Channel → UInt8
  | .red => color.red
  | .green => color.green
  | .blue => color.blue

/-- Colors with the same levels are the same. -/
theorem ext_channel {a b : Color} (h : ∀ c, a.channel c = b.channel c) : a = b := by
  cases a
  cases b
  rw [mk.injEq]
  exact ⟨h .red, h .green, h .blue⟩

end Color

/-! ## Counts of levels -/

open Binary32

theorem toNat_le_channel (level : UInt8) : level.toNat ≤ 255 :=
  Nat.le_of_lt_succ level.toNat_lt

/-- What is no larger than a channel may be is finite. -/
theorem isFinite_of_abs_value_le_channel {x : Binary32} (h : |x.value| ≤ (255 : Nat)) :
    x.isFinite = true :=
  isFinite_of_abs_value_le_two_pow (h.trans (by norm_num))

theorem isFinite_ofNat_channel {level : Nat} (h : level ≤ 255) : (ofNat level).isFinite = true := by
  apply isFinite_of_abs_value_le_channel
  rw [value_ofNat_of_le (by omega), Nat.abs_cast]
  exact_mod_cast h

end ColorMarkup
