import Mathlib.Data.List.Nodup
import Offload.Progress
import Offload.DeviceTraits
import Offload.Image.Descriptor
import Offload.Scalar

/-! Native enumerations and image formats as raw codes and as texts. No raw code is lost, whether it
is listed or not, and each has a text of its own. The size of a pixel is the same on both sides of
the border, also for formats with unlisted parts. -/
namespace Offload

/-- Labels that tell the members apart and cannot be taken for anything else: an unlisted code is
shown in brackets, and the parts of a format are set apart by a slash. -/
class Legible (α : Type) [Labelled α] : Prop where
  nodup_labels : ((Listed.members : List α).map Labelled.label).Nodup
  plain : ∀ member : α, '(' ∉ (Labelled.label member).toList ∧ '/' ∉ (Labelled.label member).toList

instance : Legible MemoryKind where
  nodup_labels := by decide
  plain := by intro kind; cases kind <;> decide

instance : Legible ChannelOrder where
  nodup_labels := by decide
  plain := by intro order; cases order <;> decide

instance : Legible ChannelType where
  nodup_labels := by decide
  plain := by intro type; cases type <;> decide

instance : Legible LocalMemoryKind where
  nodup_labels := by decide
  plain := by intro kind; cases kind <;> decide

instance : Legible CacheKind where
  nodup_labels := by decide
  plain := by intro kind; cases kind <;> decide

instance : Legible BuildStatus where
  nodup_labels := by decide
  plain := by intro status; cases status <;> decide

private theorem Labelled.label_injective {α : Type} [Labelled α] [Legible α] {first second : α}
    (same : Labelled.label first = Labelled.label second) : first = second :=
  List.inj_on_of_nodup_map Legible.nodup_labels (Listed.mem_members first) (Listed.mem_members second)
    same

namespace Coded
variable {α : Type}

/-- An unlisted value with a listed code. No raw code is read as one. -/
def Shadowed [Listed α] : Coded α → Prop
  | .listed _ => False
  | .unknown raw => ∃ member : α, Listed.code member = raw

private theorem ofRaw_unknown_iff [Listed α] {code : Int} :
    ofRaw code = (unknown code : Coded α) ↔ ¬ ∃ member : α, Listed.code member = code := by
  unfold ofRaw
  cases found : (Listed.ofCode? code : Option α) with
  | none =>
    refine iff_of_true rfl ?_
    rintro ⟨member, coded⟩
    rw [Listed.ofCode?_eq_some.mpr coded] at found
    cases found
  | some member =>
    refine iff_of_false ?_ (not_not_intro ⟨member, Listed.code_of_ofCode? found⟩)
    intro same
    cases same

/-- Only a value in the place of a listed one does not come back from its code. -/
theorem ofRaw_raw_iff [Listed α] (value : Coded α) : ofRaw value.raw = value ↔ ¬ value.Shadowed := by
  cases value with
  | listed member => exact iff_of_true (ofRaw_code member) id
  | unknown code => exact ofRaw_unknown_iff

variable [Labelled α]

private theorem bracket_mem_text (code : Int) : '(' ∈ (unknown code : Coded α).text.toList := by
  have front : '(' ∈ "Unknown(".toList := by decide
  simp only [text, String.toList_append, List.mem_append]
  exact Or.inl (Or.inl front)

variable [Legible α]

private theorem slash_notMem_text (value : Coded α) : '/' ∉ value.text.toList := by
  cases value with
  | listed member => exact (Legible.plain member).2
  | unknown code =>
    have table : ∀ small : Fin 16, Text.digit small.val ≠ '/' := by decide
    simp only [text, String.toList_append, List.mem_append, Text.hexadecimal, String.toList_ofList]
    rintro ((front | middle) | last)
    · exact absurd front (by decide)
    · obtain ⟨small, below, slash⟩ := Text.exists_digit_of_mem_digits (by decide) middle
      exact table ⟨small, below⟩ slash.symm
    · exact absurd last (by decide)

/-- Different values have different texts, as long as their codes are of one type of 32 bits. -/
theorem text_injective {type : ScalarType} (wide : type.width = 4) {first second : Coded α}
    (fits : type.Holds first.raw) (fitsToo : type.Holds second.raw) (same : first.text = second.text) :
    first = second := by
  cases first with
  | listed member =>
    cases second with
    | listed other => rw [Labelled.label_injective same]
    | unknown code =>
      have bracketed := bracket_mem_text (α := α) code
      rw [← same] at bracketed
      exact absurd bracketed (Legible.plain member).1
  | unknown code =>
    cases second with
    | listed other =>
      have bracketed := bracket_mem_text (α := α) code
      rw [same] at bracketed
      exact absurd bracketed (Legible.plain other).1
    | unknown other =>
      have numbered := (String.append_right_inj _).mp ((String.append_left_inj _).mp same)
      have left := Text.hexadecimal_injective numbered
      have capacity : (LittleEndian.capacity type.width : Int) = 4294967296 := by rw [wide]; rfl
      have residues : code % (LittleEndian.capacity type.width : Int) =
          other % (LittleEndian.capacity type.width : Int) := by
        rw [capacity]
        omega
      have read : code = other := ScalarType.eq_of_emod_eq fits fitsToo residues
      rw [read]

end Coded

/-- What holds of a native enumeration whose raw codes are values of a type. -/
structure Translates (α : Type) [Labelled α] (type : ScalarType) : Prop where
  raw_ofRaw : ∀ code, (Coded.ofRaw code : Coded α).raw = code
  ofRaw_raw_iff : ∀ value : Coded α, Coded.ofRaw value.raw = value ↔ ¬ value.Shadowed
  told : ∀ first second, type.Holds first → type.Holds second → first ≠ second →
    (Coded.ofRaw first : Coded α).text ≠ (Coded.ofRaw second : Coded α).text

private theorem Translates.of_legible (α : Type) [Labelled α] [Legible α] {type : ScalarType}
    (wide : type.width = 4) : Translates α type where
  raw_ofRaw := Coded.raw_ofRaw
  ofRaw_raw_iff := Coded.ofRaw_raw_iff
  told := by
    intro first second fits fitsToo apart same
    rw [← Coded.raw_ofRaw (α := α) first] at fits
    rw [← Coded.raw_ofRaw (α := α) second] at fitsToo
    have read := Coded.text_injective wide fits fitsToo same
    rw [← Coded.raw_ofRaw (α := α) first, read, Coded.raw_ofRaw] at apart
    exact apart rfl

/-- Two texts that are joined by a separator can be taken apart at the first one. -/
theorem Text.parts_of_append_eq {separator : Char} {first second front rest : List Char}
    (free : separator ∉ first) (freeToo : separator ∉ front)
    (same : first ++ separator :: second = front ++ separator :: rest) :
    first = front ∧ second = rest := by
  have places := congrArg (List.idxOf separator) same
  simp only [List.idxOf_append, free, freeToo, if_false, List.idxOf_cons_self, Nat.zero_add] at places
  obtain ⟨before, behind⟩ := List.append_inj same places
  exact ⟨before, (List.cons.inj behind).2⟩

private theorem ChannelOrder.channels_pos {order : ChannelOrder} {channels : Nat}
    (counted : order.channels? = some channels) : 0 < channels := by
  cases order <;> cases counted <;> decide

private theorem ChannelType.channelBytes_pos {type : ChannelType} {bytes : Nat}
    (taken : type.channelBytes? = some bytes) : 0 < bytes := by
  cases type <;> cases taken <;> decide

namespace ImageFormat

/-- Different formats have different texts, as long as their codes are unsigned. -/
theorem text_injective {first second : ImageFormat}
    (fits : ScalarType.uint32.Holds first.order.raw ∧ ScalarType.uint32.Holds first.type.raw)
    (fitsToo : ScalarType.uint32.Holds second.order.raw ∧ ScalarType.uint32.Holds second.type.raw)
    (same : first.text = second.text) : first = second := by
  have chars := congrArg String.toList same
  have slash : "/".toList = ['/'] := rfl
  simp only [text, String.toList_append, slash, List.append_assoc, List.singleton_append] at chars
  obtain ⟨orders, types⟩ :=
    Text.parts_of_append_eq first.order.slash_notMem_text second.order.slash_notMem_text chars
  have order := Coded.text_injective rfl fits.1 fitsToo.1 (String.toList_inj.mp orders)
  have type := Coded.text_injective rfl fits.2 fitsToo.2 (String.toList_inj.mp types)
  cases first
  cases second
  exact congr (congrArg mk order) type

/-- The pixels of a format take some bytes. -/
theorem pixelSize_pos {format : ImageFormat} {pixel : Nat} (sized : format.pixelSize? = some pixel) :
    0 < pixel := by
  unfold pixelSize? at sized
  split at sized
  · cases sized
  · cases sized
    decide
  · cases sized
    decide
  · cases sized
    decide
  · split at sized
    · cases sized
      decide
    · cases sized
  · split at sized
    · rename_i channels bytes counted taken
      cases sized
      unfold channels? at counted
      split at counted
      · exact Nat.mul_pos (ChannelOrder.channels_pos counted) (ChannelType.channelBytes_pos taken)
      · cases counted
    · cases sized

/-- A format whose pixels have a size keeps it on the way through its codes. -/
theorem pixelSize?_ofRaw {format : ImageFormat} {pixel : Nat}
    (sized : format.pixelSize? = some pixel) : (ofRaw format.toRaw).pixelSize? = some pixel := by
  obtain ⟨order, type⟩ := format
  cases order with
  | listed order =>
    cases type with
    | listed type => simpa only [ofRaw, toRaw, Coded.raw, Coded.ofRaw_code] using sized
    | unknown => cases sized
  | unknown raw =>
    -- Only the packed types have pixels whatever the order of the channels is.
    cases type with
    | listed type => cases type <;> first | cases sized; rfl | cases sized
    | unknown => cases sized

end ImageFormat

/-- Enumerations and formats come through their raw codes and are told apart by their texts. A raw
code comes back from the value that it is read as; a value comes back from its code unless it stands
in the place of a listed one; and host and runtime agree on the size of a pixel. -/
theorem enumerations_round_trip :
    (Translates MemoryKind .uint32 ∧ Translates ChannelOrder .uint32 ∧ Translates ChannelType .uint32 ∧
      Translates LocalMemoryKind .uint32 ∧ Translates CacheKind .uint32 ∧ Translates BuildStatus .int32) ∧
    (∀ raw, (ImageFormat.ofRaw raw).toRaw = raw) ∧
    (∀ first second : RawFormat,
      (ScalarType.uint32.Holds first.order ∧ ScalarType.uint32.Holds first.type) →
      (ScalarType.uint32.Holds second.order ∧ ScalarType.uint32.Holds second.type) → first ≠ second →
        (ImageFormat.ofRaw first).text ≠ (ImageFormat.ofRaw second).text) ∧
    ∀ (format : ImageFormat) pixel, format.pixelSize? = some pixel →
      1 ≤ pixel ∧ (ImageFormat.ofRaw format.toRaw).pixelSize? = some pixel := by
  refine ⟨?_, ImageFormat.toRaw_ofRaw, ?_, ?_⟩
  · exact ⟨.of_legible _ rfl, .of_legible _ rfl, .of_legible _ rfl, .of_legible _ rfl, .of_legible _ rfl,
      .of_legible _ rfl⟩
  · intro first second fits fitsToo apart same
    rw [← ImageFormat.toRaw_ofRaw first] at fits
    rw [← ImageFormat.toRaw_ofRaw second] at fitsToo
    have read := ImageFormat.text_injective fits fitsToo same
    rw [← ImageFormat.toRaw_ofRaw first, read, ImageFormat.toRaw_ofRaw] at apart
    exact apart rfl
  · intro format pixel sized
    exact ⟨ImageFormat.pixelSize_pos sized, ImageFormat.pixelSize?_ofRaw sized⟩

/-- Two unsigned codes, listed and unlisted, and a packed format with a channel order that is kept
as an unlisted one though it has a name. -/
theorem unlistedParts_round_trip :
    (ScalarType.uint32.Holds 0x10B5 ∧ ScalarType.uint32.Holds 0xDEAD ∧ (0x10B5 : Int) ≠ 0xDEAD ∧
      (⟨.unknown 0x10B5, .listed .unormShort565⟩ : ImageFormat).pixelSize? = some 2) ∧
    (Coded.ofRaw 0x10B5 : Coded ChannelOrder).text ≠ (Coded.ofRaw 0xDEAD : Coded ChannelOrder).text ∧
    (ImageFormat.ofRaw ⟨0x10B5, 0xDEAD⟩).text ≠ (ImageFormat.ofRaw ⟨0xDEAD, 0x10B5⟩).text ∧
    (ImageFormat.ofRaw ⟨0x10B5, 0x10D4⟩).pixelSize? = some 2 := by
  obtain ⟨⟨_, orders, _⟩, _, formats, pixels⟩ := enumerations_round_trip
  have listed : ScalarType.uint32.Holds 0x10B5 := by decide
  have unlisted : ScalarType.uint32.Holds 0xDEAD := by decide
  have apart : (0x10B5 : Int) ≠ 0xDEAD := by decide
  refine ⟨⟨listed, unlisted, apart, rfl⟩, orders.told _ _ listed unlisted apart, ?_, ?_⟩
  · exact formats _ _ ⟨listed, unlisted⟩ ⟨unlisted, listed⟩ (by decide)
  · exact (pixels ⟨.unknown 0x10B5, .listed .unormShort565⟩ 2 rfl).2

end Offload
