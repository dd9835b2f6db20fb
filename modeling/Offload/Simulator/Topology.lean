import Offload.Simulator.Store

/-! The ids of platforms and devices. A device id tells its platform and its place there. -/
namespace Offload.Simulator

def platformId (index : Nat) : Nat := 0x1000 + index

def deviceId (platform index : Nat) : Nat := 0x100000 + 0x1000 * platform + index

/-- Subtraction of 64-bit numbers, wrapping below zero. -/
def wrappingSub (value amount : Nat) : Nat := (value + fullRange - amount) % fullRange

namespace Store

/-- The place of a platform; a null id stands for the first one. -/
def platformIndex (store : Store) (id : Nat) : Except Refusal Nat :=
  if id = 0 then
    if store.platforms > 0 then .ok 0 else refuse .invalidPlatform
  else
    let index := wrappingSub id 0x1000
    if index < store.platforms then .ok index else refuse .invalidPlatform

/-- The platform of a device and its place there. -/
def deviceIndex (store : Store) (id : Nat) : Except Refusal (Nat × Nat) :=
  let offset := wrappingSub id 0x100000
  let platform := offset / 0x1000
  let index := offset % 0x1000
  if platform < store.platforms ∧ index < store.devices then .ok (platform, index)
  else refuse .invalidDevice

/-- Checks devices one after the other. -/
def checkDevices (store : Store) (devices : List Nat) : Except Refusal Unit :=
  devices.forM fun device => do
    let _ ← store.deviceIndex device

/-- Lists the first platforms, and counts all of them. -/
def listPlatforms (store : Store) (entries : Nat) (wantIds wantCount : Bool) :
    Except Refusal Response := do
  require (!(entries == 0 && wantIds) && (wantIds || wantCount)) .invalidValue
  if store.platforms = 0 then
    .error (.status (-1001))
  else
    .ok {
      ids := if wantIds then (List.range (min store.platforms entries)).map platformId else []
      reported := if wantCount then some (store.platforms % halfRange) else none }

/-- Lists the first devices of a platform, and counts all of them. Every device is a
default device and a graphics processor, and meets no other type. -/
def listDevices (store : Store) (platform : Nat) (types : UInt64) (entries : Nat)
    (wantIds wantCount : Bool) : Except Refusal Response := do
  let index ← store.platformIndex platform
  require (!(entries == 0 && wantIds) && (wantIds || wantCount)) .invalidValue
  require (intersectsTypes types && store.devices != 0) .deviceNotFound
  .ok {
    ids := if wantIds then (List.range (min store.devices entries)).map (deviceId index) else []
    reported := if wantCount then some (store.devices % halfRange) else none }
where
  intersectsTypes (types : UInt64) : Bool := types &&& 0x5 != 0

end Store

/-- The format at a place of the list that every context reports. -/
def supportedFormat (index : Nat) : RawFormat :=
  ⟨0x10B0 + (index % 15 : Nat), 0x10D0 + (index / 15 % 16 : Nat)⟩

def supportedFormatCount : Nat := 300

/-- Lists the first supported formats, and counts all of them. -/
def Store.listFormats (store : Store) (context entries : Nat) (wantFormats wantCount : Bool) :
    Except Refusal Response := do
  let _ ← store.context context
  require (!(entries == 0 && wantFormats)) .invalidValue
  .ok {
    formats :=
      if wantFormats then (List.range (min supportedFormatCount entries)).map supportedFormat else []
    reported := if wantCount then some supportedFormatCount else none }

end Offload.Simulator
