import SmwRecomp.Lib.CEnum

/-!
# Captain Falcon's action states

`src/src/mods/falcon/falcon_locomotion.h`: `FalconState`, without the prefix `FL_`.
-/

set_option autoImplicit false

namespace SmwRecomp.Falcon

inductive FalconState where
  | wait
  | walkSlow
  | walkMiddle
  | walkFast
  | dash
  | run
  | runBrake
  | turn
  | turnRun
  | kneebend
  | jumpF
  | jumpB
  | jumpAerialF
  | jumpAerialB
  | fall
  | fallAerial
  | landingLight
  | landingHeavy
  | jab
  | ftilt
  | attackAirN
  | attackAirF
  | attackAirB
  | falconPunchGround
  | falconPunchAir
  | falconKickGround
  | falconKickGroundAir
  | falconKickLanding
  | falconKickAir
  | falconKickBound
  | falconDiveGround
  | falconDiveAir
  | falconDiveCatch
  | falconDiveThrow
  | falconDiveFall
  | falconDiveLanding
  | attackAirLw
  deriving DecidableEq, Repr, Inhabited

namespace FalconState

/-- The states in the order of their codes. -/
def all : List FalconState :=
  [wait, walkSlow, walkMiddle, walkFast, dash, run, runBrake, turn, turnRun, kneebend, jumpF, jumpB,
    jumpAerialF, jumpAerialB, fall, fallAerial, landingLight, landingHeavy, jab, ftilt, attackAirN,
    attackAirF, attackAirB, falconPunchGround, falconPunchAir, falconKickGround,
    falconKickGroundAir, falconKickLanding, falconKickAir, falconKickBound, falconDiveGround,
    falconDiveAir, falconDiveCatch, falconDiveThrow, falconDiveFall, falconDiveLanding, attackAirLw]

theorem mem_all (a : FalconState) : a ∈ all := by
  cases a <;> decide

theorem index_injective {a b : FalconState} (h : all.idxOf a = all.idxOf b) : a = b :=
  (List.idxOf_inj (mem_all a)).1 h

end FalconState

instance : Enumeration FalconState where
  code a := UInt32.ofNat (FalconState.all.idxOf a)
  constants := FalconState.all
  mem_constants := FalconState.mem_all
  code_injective a b h := by
    have hsmall : ∀ c, FalconState.all.idxOf c < 2 ^ 32 := fun c =>
      Nat.lt_of_lt_of_le (List.idxOf_lt_length_of_mem (FalconState.mem_all c)) (by decide)
    have heq := congrArg UInt32.toNat h
    rw [UInt32.toNat_ofNat_of_lt' (hsmall a), UInt32.toNat_ofNat_of_lt' (hsmall b)] at heq
    exact FalconState.index_injective heq

end SmwRecomp.Falcon
