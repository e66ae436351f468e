import OpenSpaceEgse.Python
import Mathlib.Data.Rat.Init
import Mathlib.Algebra.Order.Ring.Int
import Mathlib.Tactic.Linarith

/-!
# Telemetry payloads

A payload holds a status code and three numbers, of which the first one is signed.  The
program turns the numbers into floats; here they are the rationals that it means.
-/

namespace OpenSpaceEgse

open Wire

def telemetryMinPayloadLength : ℕ := 7
def statusIndex : ℕ := 0
def temperatureStart : ℕ := 1
def temperatureEnd : ℕ := 3
def voltageStart : ℕ := 3
def voltageEnd : ℕ := 5
def capacityStart : ℕ := 5
def capacityEnd : ℕ := 7

/-- `STATUS_TEXT_MAP.get(status_code, …)`. -/
def statusText : ℕ → String
  | 0 => "BOOT"
  | 1 => "IDLE"
  | 2 => "NOMINAL"
  | 3 => "SAFE"
  | 4 => "FAULT"
  | statusCode => "UNKNOWN(" ++ toString statusCode ++ ")"

structure TelemetrySample where
  statusCode : ℕ
  statusText : String
  temperatureC : ℚ
  voltageV : ℚ
  batteryCapacityPct : ℚ
deriving DecidableEq, Repr

/-- `int.from_bytes(bs, "big", signed=True)`. -/
def fromBytesSigned (bs : Bytes) : ℤ :=
  let n := fromBytes bs
  if 2 * n < 256 ^ bs.length then n else n - 256 ^ bs.length

/-- `n.to_bytes(len, "big", signed=True)`, for a number that fits. -/
def toBytesSigned (n : ℤ) (len : ℕ) : Bytes := toBytes (n % 256 ^ len).toNat len

/-- `decode_telemetry_payload`. -/
def decodeTelemetryPayload (payload : Bytes) : Except PyError TelemetrySample :=
  if payload.length < telemetryMinPayloadLength then
    .error (.valueError "telemetry payload is too short")
  else
    let statusCode := byteAt payload statusIndex
    let temperatureRaw := fromBytesSigned (slice payload temperatureStart temperatureEnd)
    let voltageRaw := fromBytes (slice payload voltageStart voltageEnd)
    let capacityRaw := fromBytes (slice payload capacityStart capacityEnd)
    .ok
      { statusCode := statusCode
        statusText := statusText statusCode
        temperatureC := temperatureRaw / 100
        voltageV := voltageRaw / 1000
        batteryCapacityPct := capacityRaw / 10 }

/-! ## What was written is read back -/

lemma length_toBytesSigned (n : ℤ) (len : ℕ) : (toBytesSigned n len).length = len :=
  length_toBytes _ len

/-- A number that fits its bytes with a sign is read back. -/
lemma fromBytesSigned_toBytesSigned {n : ℤ} {len : ℕ} (hlo : -256 ^ len ≤ 2 * n)
    (hhi : 2 * n < 256 ^ len) : fromBytesSigned (toBytesSigned n len) = n := by
  have hpow : (0 : ℤ) < 256 ^ len := by positivity
  have hnonneg : 0 ≤ n % 256 ^ len := Int.emod_nonneg n (ne_of_gt hpow)
  have hlt : n % 256 ^ len < 256 ^ len := Int.emod_lt_of_pos n hpow
  have hcast : ((256 ^ len : ℕ) : ℤ) = 256 ^ len := by push_cast; rfl
  have hread : fromBytes (toBytesSigned n len) = (n % 256 ^ len).toNat :=
    fromBytes_toBytes (by omega)
  rw [fromBytesSigned, hread, length_toBytesSigned]
  rcases lt_or_ge n 0 with hneg | hpos
  · -- the complement lies in the upper half
    have hmod : n % 256 ^ len = n + 256 ^ len := by
      rw [← Int.add_emod_right, Int.emod_eq_of_lt (by omega) (by omega)]
    rw [hmod, if_neg (by omega)]
    omega
  · have hmod : n % 256 ^ len = n := Int.emod_eq_of_lt hpos (by omega)
    rw [hmod, if_pos (by omega)]
    exact Int.toNat_of_nonneg hpos

/-- The sample in a payload of four numbers that fit their fields. -/
lemma decodeTelemetryPayload_eq {statusCode voltageRaw capacityRaw : ℕ} {temperatureRaw : ℤ}
    (hs : statusCode < 256) (ht : -32768 ≤ temperatureRaw ∧ temperatureRaw < 32768)
    (hv : voltageRaw < 65536) (hc : capacityRaw < 65536) :
    decodeTelemetryPayload (toBytes statusCode 1 ++ toBytesSigned temperatureRaw 2 ++
      toBytes voltageRaw 2 ++ toBytes capacityRaw 2) =
      .ok
        { statusCode := statusCode
          statusText := statusText statusCode
          temperatureC := temperatureRaw / 100
          voltageV := voltageRaw / 1000
          batteryCapacityPct := capacityRaw / 10 } := by
  have hlen : (toBytes statusCode 1 ++ toBytesSigned temperatureRaw 2 ++
      toBytes voltageRaw 2 ++ toBytes capacityRaw 2).length = 7 := by
    simp only [List.length_append, length_toBytes, length_toBytesSigned]
  have hstatus : byteAt (toBytes statusCode 1 ++ toBytesSigned temperatureRaw 2 ++
      toBytes voltageRaw 2 ++ toBytes capacityRaw 2) 0 = statusCode := by
    simp only [toBytes, byteAt, List.nil_append, List.append_assoc, List.cons_append,
      List.getD_cons_zero, UInt8.toNat_ofNat']
    omega
  have htemperature : slice (toBytes statusCode 1 ++ toBytesSigned temperatureRaw 2 ++
      toBytes voltageRaw 2 ++ toBytes capacityRaw 2) 1 3 = toBytesSigned temperatureRaw 2 := by
    rw [List.append_assoc (toBytes statusCode 1 ++ _)]
    exact slice_between _ _ _ (length_toBytes _ _) (by rw [length_toBytesSigned])
  have hvoltage : slice (toBytes statusCode 1 ++ toBytesSigned temperatureRaw 2 ++
      toBytes voltageRaw 2 ++ toBytes capacityRaw 2) 3 5 = toBytes voltageRaw 2 :=
    slice_between _ _ _ (by rw [List.length_append, length_toBytes, length_toBytesSigned])
      (by rw [length_toBytes])
  have hcapacity : slice (toBytes statusCode 1 ++ toBytesSigned temperatureRaw 2 ++
      toBytes voltageRaw 2 ++ toBytes capacityRaw 2) 5 7 = toBytes capacityRaw 2 := by
    rw [← List.append_nil (_ ++ toBytes capacityRaw 2)]
    refine slice_between _ _ _ ?_ (by rw [length_toBytes])
    simp only [List.length_append, length_toBytes, length_toBytesSigned]
  rw [decodeTelemetryPayload, if_neg (by rw [hlen]; decide)]
  simp only [statusIndex, temperatureStart, temperatureEnd, voltageStart, voltageEnd,
    capacityStart, capacityEnd, hstatus, htemperature, hvoltage, hcapacity]
  rw [fromBytesSigned_toBytesSigned (by omega) (by omega), fromBytes_toBytes (by omega),
    fromBytes_toBytes (by omega)]

end OpenSpaceEgse
