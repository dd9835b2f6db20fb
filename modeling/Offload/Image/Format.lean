import Offload.Coded

/-! Image formats: the order of the channels of a pixel, the type of each channel,
and the number of bytes that a pixel takes. -/
namespace Offload

inductive ChannelOrder where
  | r | a | rg | ra | rgb | rgba | bgra | argb | intensity | luminance | rx | rgx | rgbx
  | depth | depthStencil | oneRgb | bgrOne
  deriving DecidableEq, Repr

namespace ChannelOrder

def all : List ChannelOrder :=
  [.r, .a, .rg, .ra, .rgb, .rgba, .bgra, .argb, .intensity, .luminance, .rx, .rgx, .rgbx,
   .depth, .depthStencil, .oneRgb, .bgrOne]

def code : ChannelOrder → Int
  | .r => 0x10B0 | .a => 0x10B1 | .rg => 0x10B2 | .ra => 0x10B3 | .rgb => 0x10B4 | .rgba => 0x10B5
  | .bgra => 0x10B6 | .argb => 0x10B7 | .intensity => 0x10B8 | .luminance => 0x10B9
  | .rx => 0x10BA | .rgx => 0x10BB | .rgbx => 0x10BC | .depth => 0x10BD | .depthStencil => 0x10BE
  | .oneRgb => 0x10000006 | .bgrOne => 0x10000007

def label : ChannelOrder → String
  | .r => "R" | .a => "A" | .rg => "RG" | .ra => "RA" | .rgb => "RGB" | .rgba => "RGBA"
  | .bgra => "BGRA" | .argb => "ARGB" | .intensity => "Intensity" | .luminance => "Luminance"
  | .rx => "Rx" | .rgx => "RGx" | .rgbx => "RGBx" | .depth => "Depth"
  | .depthStencil => "DepthStencil" | .oneRgb => "1RGBApple" | .bgrOne => "BGR1Apple"

instance : Labelled ChannelOrder where
  members := all
  code := code
  label := label
  name := fun order => if order = .oneRgb then "OneRGBApple" else order.label
  mem_members := by intro order; cases order <;> decide
  nodup_codes := by decide

/-- Stored channels of a pixel, where that is fixed. -/
def channels? : ChannelOrder → Option Nat
  | .r | .a | .intensity | .luminance | .rx | .depth => some 1
  | .rg | .ra | .rgx => some 2
  | .rgb | .rgbx => some 3
  | .rgba | .bgra | .argb | .oneRgb | .bgrOne => some 4
  | .depthStencil => none

end ChannelOrder

inductive ChannelType where
  | snormInt8 | snormInt16 | unormInt8 | unormInt16 | unormShort565 | unormShort555
  | unormInt101010 | signedInt8 | signedInt16 | signedInt32 | unsignedInt8 | unsignedInt16
  | unsignedInt32 | halfFloat | float | unormInt24 | sfixed14
  deriving DecidableEq, Repr

namespace ChannelType

def all : List ChannelType :=
  [.snormInt8, .snormInt16, .unormInt8, .unormInt16, .unormShort565, .unormShort555,
   .unormInt101010, .signedInt8, .signedInt16, .signedInt32, .unsignedInt8, .unsignedInt16,
   .unsignedInt32, .halfFloat, .float, .unormInt24, .sfixed14]

def code : ChannelType → Int
  | .snormInt8 => 0x10D0 | .snormInt16 => 0x10D1 | .unormInt8 => 0x10D2 | .unormInt16 => 0x10D3
  | .unormShort565 => 0x10D4 | .unormShort555 => 0x10D5 | .unormInt101010 => 0x10D6
  | .signedInt8 => 0x10D7 | .signedInt16 => 0x10D8 | .signedInt32 => 0x10D9
  | .unsignedInt8 => 0x10DA | .unsignedInt16 => 0x10DB | .unsignedInt32 => 0x10DC
  | .halfFloat => 0x10DD | .float => 0x10DE | .unormInt24 => 0x10DF | .sfixed14 => 0x10000008

def label : ChannelType → String
  | .snormInt8 => "SNormInt8" | .snormInt16 => "SNormInt16" | .unormInt8 => "UNormInt8"
  | .unormInt16 => "UNormInt16" | .unormShort565 => "UNormShort565"
  | .unormShort555 => "UNormShort555" | .unormInt101010 => "UNormInt101010"
  | .signedInt8 => "SignedInt8" | .signedInt16 => "SignedInt16" | .signedInt32 => "SignedInt32"
  | .unsignedInt8 => "UnsignedInt8" | .unsignedInt16 => "UnsignedInt16"
  | .unsignedInt32 => "UnsignedInt32" | .halfFloat => "HalfFloat" | .float => "Float"
  | .unormInt24 => "UNormInt24" | .sfixed14 => "SFixed14Apple"

instance : Labelled ChannelType where
  members := all
  code := code
  label := label
  name := label
  mem_members := by intro type; cases type <;> decide
  nodup_codes := by decide

/-- Bytes of one channel, for the types that store each channel by itself. -/
def channelBytes? : ChannelType → Option Nat
  | .snormInt8 | .unormInt8 | .signedInt8 | .unsignedInt8 => some 1
  | .snormInt16 | .unormInt16 | .signedInt16 | .unsignedInt16 | .halfFloat | .sfixed14 => some 2
  | .signedInt32 | .unsignedInt32 | .float => some 4
  | .unormShort565 | .unormShort555 | .unormInt101010 | .unormInt24 => none

end ChannelType

structure ImageFormat where
  order : Coded ChannelOrder
  type : Coded ChannelType
  deriving DecidableEq, Repr

/-- The pair of codes that stands for a format in a native call. -/
structure RawFormat where
  order : Int := 0
  type : Int := 0
  deriving DecidableEq, Repr

namespace ImageFormat

def ofRaw (raw : RawFormat) : ImageFormat := ⟨.ofRaw raw.order, .ofRaw raw.type⟩

def toRaw (format : ImageFormat) : RawFormat := ⟨format.order.raw, format.type.raw⟩

def channels? (format : ImageFormat) : Option Nat :=
  match format.order with
  | .listed order => order.channels?
  | .unknown _ => none

/-- Bytes of one pixel. The packed types have a size of their own whatever the order
of the channels; the other types need an order with a fixed number of channels. -/
def pixelSize? (format : ImageFormat) : Option Nat :=
  match format.type with
  | .unknown _ => none
  | .listed .unormShort565 | .listed .unormShort555 => some 2
  | .listed .unormInt101010 => some 4
  | .listed .unormInt24 =>
    if format.order = .listed .depth ∨ format.order = .listed .depthStencil then some 4 else none
  | .listed type =>
    match format.channels?, type.channelBytes? with
    | some channels, some bytes => some (channels * bytes)
    | _, _ => none

def text (format : ImageFormat) : String := format.order.text ++ "/" ++ format.type.text

@[simp] theorem toRaw_ofRaw (raw : RawFormat) : (ofRaw raw).toRaw = raw := by
  simp [ofRaw, toRaw]

end ImageFormat
end Offload
