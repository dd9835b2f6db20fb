/-! Squaring in the 32-bit binary floating-point format, on bit patterns. The
exact square of the significand is rounded once, to nearest with ties to even. -/
namespace Offload.Binary32

/-- The quotient by `2 ^ shift` rounded to nearest, a tie going to the even neighbour. -/
def roundShift (value shift : Nat) : Nat :=
  let unit := 1 <<< shift
  let low := value % unit
  let high := value / unit
  if 2 * low < unit ∨ (2 * low = unit ∧ high % 2 = 0) then high else high + 1

/-- The bit pattern of positive infinity. -/
def infinity : Nat := 0x7F800000

/-- The bits of `significand² · 2 ^ (2 · max exponent 1 - 300)`, for a biased exponent. -/
def squareFinite (exponent significand : Nat) : Nat :=
  if significand = 0 then 0 else
    let product := significand * significand
    let scale := 2 * max exponent 1
    let step := scale + (Nat.log2 product + 1) - 175
    let rounded :=
      if scale ≤ step + 151 then roundShift product (step + 151 - scale)
      else product <<< (scale - (step + 151))
    min ((step <<< 23) + rounded) infinity

/-- The pattern of `x * x` for the value `x` of a pattern. The square of a
not-a-number keeps its sign and payload and is quiet. -/
def square (pattern : UInt32) : UInt32 :=
  let bits := pattern.toNat
  let exponent := (bits >>> 23) % 256
  let fraction := bits % 0x800000
  if exponent = 255 then
    if fraction = 0 then UInt32.ofNat infinity else pattern ||| 0x400000
  else UInt32.ofNat
    (squareFinite exponent (if exponent = 0 then fraction else fraction + 0x800000))

end Offload.Binary32
