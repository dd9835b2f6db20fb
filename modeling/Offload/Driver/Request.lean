import Offload.Driver.EntryPoint
import Offload.Image.Descriptor
import Offload.Image.Region
import Offload.NativeError

/-! The border between host and runtime: a request holds the arguments of one native
call, a response what the call hands back, and a driver answers requests on a state.
Ids and handles are numbers, zero being null; where a call takes another pointer that may
be null, the argument is optional. -/
namespace Offload

/-- Where an information query may store its answer: the size of the value buffer and
which of the two pointers are given. -/
structure Window where
  size : Nat
  value : Bool := true
  length : Bool := true
  deriving DecidableEq, Repr

/-- A text as it is handed to a native call. A native text ends at its first NUL, so a text
that holds one cannot be handed over. -/
def nativeText? (text : String) : Option String :=
  if text.toList.any (fun char => char.toNat == 0) then none else some text

inductive InfoQuery where
  | platform (platform : Nat)
  | device (device : Nat)
  | build (program device : Nat)
  | kernel (kernel : Nat)
  | workGroup (kernel device : Nat)
  | event (event : Nat)
  | profiling (event : Nat)
  deriving DecidableEq, Repr

def InfoQuery.topic : InfoQuery → InfoTopic
  | .platform _ => .platform
  | .device _ => .device
  | .build .. => .build
  | .kernel _ => .kernel
  | .workGroup .. => .workGroup
  | .event _ => .event
  | .profiling _ => .profiling

/-- The handles passed as a counted list. -/
structure HandleList where
  count : Nat
  handles : Option (List Nat)
  deriving DecidableEq, Repr

/-- The number of values of 32 and of 64 bits. -/
def halfRange : Nat := 0x100000000
def fullRange : Nat := 0x10000000000000000

namespace HandleList

/-- A list as a native call takes it, counted in 32 bits: no pointer where it is empty. -/
def ofList (handles : List Nat) : HandleList :=
  ⟨handles.length % halfRange, if handles.isEmpty then none else some handles⟩

theorem ofList_of_lt {handles : List Nat} (few : handles.length < halfRange) :
    ofList handles = ⟨handles.length, if handles.isEmpty then none else some handles⟩ := by
  rw [ofList, Nat.mod_eq_of_lt few]

end HandleList

/-- The data that a queued command works on. -/
inductive Command where
  | readBuffer (buffer : Nat) (offset size : Nat) (target : Bool)
  | writeBuffer (buffer : Nat) (offset size : Nat) (data : Option Block)
  | copyBuffer (source target : Nat) (sourceOffset targetOffset size : Nat)
  | fillBuffer (buffer : Nat) (pattern : Option Bytes) (patternSize offset size : Nat)
  | readImage (image : Nat) (origin extent : Option Triple) (rowPitch slicePitch : Nat)
      (target : Bool)
  | writeImage (image : Nat) (origin extent : Option Triple) (rowPitch slicePitch : Nat)
      (data : Option Block)
  | dispatch (kernel : Nat) (dimensions : Nat) (offsets globals locals : Option (List Nat))
  | barrier
  | marker
  deriving DecidableEq, Repr

def Command.kind : Command → CommandKind
  | .readBuffer .. => .readBuffer
  | .writeBuffer .. => .writeBuffer
  | .copyBuffer .. => .copyBuffer
  | .fillBuffer .. => .fillBuffer
  | .readImage .. => .readImage
  | .writeImage .. => .writeImage
  | .dispatch .. => .dispatch
  | .barrier => .barrier
  | .marker => .marker

/-- One native call with its arguments. -/
inductive Request where
  | platformIds (entries : Nat) (wantIds wantCount : Bool)
  | deviceIds (platform : Nat) (types : UInt64) (entries : Nat) (wantIds wantCount : Bool)
  | info (query : InfoQuery) (parameter : Int) (window : Window)
  | imageFormats (context : Nat) (flags : UInt64) (kind : Int) (entries : Nat)
      (wantFormats wantCount : Bool)
  | createContext (devices : HandleList)
  | createQueue (context device : Nat) (properties : UInt64)
  | createBuffer (context : Nat) (flags : UInt64) (size : Nat) (host : Option Block)
  | createImage (context : Nat) (flags : UInt64) (format : Option RawFormat)
      (descriptor : Option ImageDescriptor) (host : Option Block)
  | createProgram (context : Nat) (count : Nat) (sources : Option (List (Option String)))
      (lengths : Bool)
  | createKernel (program : Nat) (name : Option String)
  | createUserEvent (context : Nat)
  | buildProgram (program : Nat) (devices : HandleList) (options : Option String)
  | setKernelArg (kernel : Nat) (index size : Nat) (value : Option Bytes)
  | setEventStatus (event : Nat) (status : Int)
  | waitForEvents (events : HandleList)
  | flush (queue : Nat)
  | finish (queue : Nat)
  | enqueue (queue : Nat) (command : Command) (waits : HandleList) (wantEvent : Bool)
  | release (kind : ObjectKind) (handle : Nat)
  deriving DecidableEq, Repr

def Request.entry : Request → EntryPoint
  | .platformIds .. => .platformIds
  | .deviceIds .. => .deviceIds
  | .info query _ _ => .info query.topic
  | .imageFormats .. => .imageFormats
  | .createContext _ => .createContext
  | .createQueue .. => .createQueue
  | .createBuffer .. => .createBuffer
  | .createImage .. => .createImage
  | .createProgram .. => .createProgram
  | .createKernel .. => .createKernel
  | .createUserEvent _ => .createUserEvent
  | .buildProgram .. => .buildProgram
  | .setKernelArg .. => .setKernelArg
  | .setEventStatus .. => .setEventStatus
  | .waitForEvents _ => .waitForEvents
  | .flush _ => .flush
  | .finish _ => .finish
  | .enqueue _ command _ _ => .enqueue command.kind
  | .release kind _ => .release kind

/-- What a native call hands back. `writes` are the pieces of host memory it replaced,
`reported` is the number stored through a count or size pointer. -/
structure Response where
  status : Int := 0
  handle : Nat := 0
  writes : List (Nat × Block) := []
  ids : List Nat := []
  formats : List RawFormat := []
  reported : Option Nat := none
  deriving DecidableEq, Repr

/-- A driver answers each request on a state, or runs into a fault. -/
abbrev Driver (σ : Type) := Request → σ → Except Fault Response × σ

end Offload
