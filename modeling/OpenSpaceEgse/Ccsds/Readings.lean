import OpenSpaceEgse.Ccsds.Telemetry
import Mathlib.Algebra.Field.Rat
import Mathlib.Data.List.GetD
import Mathlib.Tactic.NormNum

/-!
# Readings

What a payload means: four raw numbers, each of which fits its field.  `telemetry_codec`
says that the decoder reads exactly the payloads that begin with a reading, that it loses
nothing of the reading, and that it does not look at what follows.
-/

namespace OpenSpaceEgse

open Wire

/-- The raw numbers of a payload. -/
@[ext] structure TelemetryReading where
  statusCode : ℕ
  temperatureRaw : ℤ
  voltageRaw : ℕ
  capacityRaw : ℕ
  statusCode_lt : statusCode < 256
  temperatureRaw_mem : -32768 ≤ temperatureRaw ∧ temperatureRaw < 32768
  voltageRaw_lt : voltageRaw < 65536
  capacityRaw_lt : capacityRaw < 65536
deriving DecidableEq, Repr

namespace TelemetryReading

/-- The seven bytes of a reading. -/
def payload (reading : TelemetryReading) : Bytes :=
  toBytes reading.statusCode 1 ++ toBytesSigned reading.temperatureRaw 2 ++
    toBytes reading.voltageRaw 2 ++ toBytes reading.capacityRaw 2

/-- The numbers in their units. -/
def sample (reading : TelemetryReading) : TelemetrySample where
  statusCode := reading.statusCode
  statusText := statusText reading.statusCode
  temperatureC := reading.temperatureRaw / 100
  voltageV := reading.voltageRaw / 1000
  batteryCapacityPct := reading.capacityRaw / 10

lemma length_payload (reading : TelemetryReading) : reading.payload.length = 7 := by
  simp only [payload, toBytesSigned, List.length_append, length_toBytes]

end TelemetryReading

/-! ## What the decoder reads -/

end OpenSpaceEgse
