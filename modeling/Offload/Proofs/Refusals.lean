import Offload.Proofs.Accepted
import Offload.Proofs.Statuses

/-! Why calls are refused. A refusal is a status other than success, so the caller can read it as
an error. There are two exceptions: squaring asks for three arguments and does not look first how
many the kernel has, and a creating call does not look first whether there can be so much memory. -/
namespace Offload
namespace Simulator

/-- A refusal that reaches the caller as an error. -/
def Refusal.Reported : Refusal → Prop
  | .status code => code ≠ 0
  | .fault _ => False

/-- An outcome that is a refusal only for one of the reasons described. -/
def Refuses {α : Type} (reasons : Refusal → Prop) (outcome : Except Refusal α) : Prop :=
  ∀ refusal, outcome = .error refusal → reasons refusal

namespace Refuses
variable {α β : Type} {reasons : Refusal → Prop}

theorem ok (value : α) : Refuses reasons (.ok value) := by
  intro refusal refused
  cases refused

theorem error {refusal : Refusal} (reason : reasons refusal) :
    Refuses reasons (.error refusal : Except Refusal α) := by
  intro other refused
  cases refused
  exact reason

/-- Checks made one after the other are refused for the reasons of each. -/
theorem bind {first : Except Refusal α} {next : α → Except Refusal β}
    (early : Refuses reasons first) (late : ∀ value, first = .ok value → Refuses reasons (next value)) :
    Refuses reasons (first >>= next) := by
  cases checked : first with
  | error refusal => exact .error (early refusal checked)
  | ok value => exact late value checked

theorem map {outcome : Except Refusal α} (refuses : Refuses reasons outcome) (change : α → β) :
    Refuses reasons (outcome.map change) := by
  cases outcome with
  | error refusal => exact .error (refuses refusal rfl)
  | ok value => exact .ok _

theorem mono {outcome : Except Refusal α} {others : Refusal → Prop} (refuses : Refuses reasons outcome)
    (weaker : ∀ refusal, reasons refusal → others refusal) : Refuses others outcome :=
  fun refusal refused => weaker refusal (refuses refusal refused)

theorem ite {condition : Prop} [Decidable condition] {first second : Except Refusal α}
    (holds : condition → Refuses reasons first) (fails : ¬ condition → Refuses reasons second) :
    Refuses reasons (if condition then first else second) := by
  split
  · exact holds ‹_›
  · exact fails ‹_›

end Refuses

/-- Refused only with an error. -/
abbrev Reports {α : Type} (outcome : Except Refusal α) : Prop := Refuses Refusal.Reported outcome

theorem reports_refuse {α : Type} (error : NativeError) : Reports (refuse error : Except Refusal α) :=
  .error error.code_ne_zero

theorem reports_require (condition : Bool) (error : NativeError) : Reports (require condition error) := by
  cases condition with
  | false => exact reports_refuse error
  | true => exact .ok ()

namespace Store
variable {store : Store}

section
variable (id : Nat)

theorem reports_context : Reports (store.context id) := by
  unfold context
  split
  · exact .ok _
  · exact reports_refuse _

theorem reports_queue : Reports (store.queue id) := by
  unfold queue
  split
  · exact .ok _
  · exact reports_refuse _

theorem reports_memory : Reports (store.memory id) := by
  unfold Store.memory
  split
  · exact .ok _
  · exact reports_refuse _

theorem reports_program : Reports (store.program id) := by
  unfold Store.program
  split
  · exact .ok _
  · exact reports_refuse _

theorem reports_kernel : Reports (store.kernel id) := by
  unfold Store.kernel
  split
  · exact .ok _
  · exact reports_refuse _

theorem reports_event : Reports (store.event id) := by
  unfold Store.event
  split
  · exact .ok _
  · exact reports_refuse _

theorem reports_platformIndex : Reports (store.platformIndex id) := by
  unfold platformIndex
  exact .ite (fun _ => .ite (fun _ => .ok _) fun _ => reports_refuse _)
    fun _ => .ite (fun _ => .ok _) fun _ => reports_refuse _

theorem reports_deviceIndex : Reports (store.deviceIndex id) :=
  .ite (fun _ => .ok _) fun _ => reports_refuse _

end

private theorem reports_checkDevices (devices : List Nat) : Reports (store.checkDevices devices) := by
  induction devices with
  | nil => exact .ok _
  | cons first rest ih =>
    rw [checkDevices, List.forM_eq_forM, List.forM_cons]
    exact .bind (.bind (reports_deviceIndex first) fun _ _ => .ok _) fun _ _ => ih

theorem reports_checkEvents (error : NativeError) (events : List Nat) :
    Reports (store.checkEvents error events) := by
  induction events with
  | nil => exact .ok _
  | cons first rest ih =>
    unfold checkEvents
    split
    · exact ih
    · exact reports_refuse _

/-! Queries. -/

theorem reports_listPlatforms (entries : Nat) (wantIds wantCount : Bool) :
    Reports (store.listPlatforms entries wantIds wantCount) :=
  .bind (reports_require _ _) fun _ _ =>
    .ite (fun _ => .error (show (-1001 : Int) ≠ 0 by decide)) fun _ => .ok _

theorem reports_listDevices (platform entries : Nat) (types : UInt64) (wantIds wantCount : Bool) :
    Reports (store.listDevices platform types entries wantIds wantCount) :=
  .bind (reports_platformIndex _) fun _ _ => .bind (reports_require _ _) fun _ _ =>
    .bind (reports_require _ _) fun _ _ => .ok _

theorem reports_listFormats (context entries : Nat) (wantFormats wantCount : Bool) :
    Reports (store.listFormats context entries wantFormats wantCount) :=
  .bind (reports_context _) fun _ _ => .bind (reports_require _ _) fun _ _ => .ok _

end Store

private theorem reports_known {α : Type} [Listed α] {answer : α → Except Refusal Bytes} (parameter : Int)
    (answers : ∀ member, Reports (answer member)) : Reports (known parameter answer) := by
  unfold known
  split
  · exact answers _
  · exact reports_refuse _

private theorem reports_deviceAnswer (platform index : Nat) (parameter : DeviceParameter) :
    Reports (deviceAnswer platform index parameter) := by
  cases parameter <;> first | exact .ok _ | exact reports_refuse _

theorem reports_respond (bytes : Bytes) (window : Window) : Reports (respond bytes window) :=
  .ite (fun _ => reports_refuse _) fun _ => .ok _

namespace Store
variable {store : Store}

theorem reports_information (query : InfoQuery) (parameter : Int) :
    Reports (store.information query parameter) := by
  cases query with
  | platform platform =>
    exact .bind (reports_platformIndex _) fun _ _ => reports_known _ fun _ => .ok _
  | device device =>
    exact .bind (reports_deviceIndex _) fun _ _ => reports_known _ (reports_deviceAnswer _ _)
  | build program device =>
    exact .bind (reports_deviceIndex _) fun _ _ => .bind (reports_program _) fun _ _ =>
      reports_known _ fun _ => .ok _
  | kernel kernel =>
    exact .bind (reports_kernel _) fun _ _ => reports_known _ fun _ => .ok _
  | workGroup kernel device =>
    refine .bind (reports_kernel _) fun _ _ => ?_
    dsimp only
    split
    · exact reports_known _ fun _ => .ok _
    · exact .bind (reports_deviceIndex _) fun _ _ => reports_known _ fun _ => .ok _
  | event event =>
    exact .bind (reports_event _) fun _ _ => reports_known _ fun _ => .ok _
  | profiling event =>
    refine .bind (reports_event _) fun found _ => ?_
    split
    · exact reports_known _ fun _ => .ok _
    · exact reports_refuse _

/-! Creations. -/

theorem reports_newContext (devices : HandleList) : Reports (store.newContext devices) := by
  unfold newContext
  split
  · exact reports_refuse _
  · refine .ite (fun _ => reports_refuse _) fun _ => ?_
    dsimp only
    split
    · exact .ok _
    · exact .error (reports_checkDevices _ _ ‹_›)

theorem reports_newQueue (context device : Nat) (properties : UInt64) :
    Reports (store.newQueue context device properties) :=
  .bind (reports_context _) fun _ _ => .bind (reports_require _ _) fun _ _ =>
    .bind (reports_require _ _) fun _ _ => .ok _

end Store

theorem reports_checkMemoryFlags (flags : UInt64) (hostGiven : Bool) :
    Reports (checkMemoryFlags flags hostGiven) :=
  .ite (fun _ => reports_refuse _) fun _ => .ite (fun _ => .ok _) fun _ => reports_refuse _

namespace Store
variable {store : Store}

/-- Creating calls that are in order, but ask for more memory than one piece of it can have: for a buffer,
for the pixels of an image, or for the parts of a source up to some place. -/
inductive Exceeds (store : Store) : Request → Prop where
  | buffer {context size : Nat} {flags : UInt64} {host : Option Block} {devices : List Nat}
      (live : store.context context = .ok devices) (permitted : checkMemoryFlags flags host.isSome = .ok ())
      (large : memoryLimit < size) : Exceeds store (.createBuffer context flags size host)
  | image {context pixel : Nat} {flags : UInt64} {format : RawFormat} {layout : ImageDescriptor}
      {host : Option Block} {devices : List Nat} (live : store.context context = .ok devices)
      (permitted : checkMemoryFlags flags host.isSome = .ok ())
      (known : (ImageFormat.ofRaw format).pixelSize? = some pixel)
      (planar : layout.kind.raw = Listed.code MemoryKind.image2D)
      (pitched : layout.rowPitch = 0 ∨ host.isSome = true ∧ layout.width * pixel ≤ layout.rowPitch)
      (large : memoryLimit < layout.width * pixel * layout.height) :
      Exceeds store (.createImage context flags (some format) (some layout) host)
  | source {context count : Nat} {front : List String} {parts back : List (Option String)}
      {devices : List Nat} (live : store.context context = .ok devices) (counted : count ≠ 0)
      (listed : parts.take count = front.map some ++ back)
      (large : memoryLimit < (String.join front).utf8ByteSize) :
      Exceeds store (.createProgram context count (some parts) false)

/-- Why a creating call is refused: with an error, or because it asks for too much memory. -/
def Denies (store : Store) (request : Request) (refusal : Refusal) : Prop :=
  refusal.Reported ∨ refusal = .fault .tooLarge ∧ store.Exceeds request

end Store

/-- Memory is refused for one reason only. -/
theorem refuses_reserve (size : Nat) :
    Refuses (fun refusal => refusal = .fault .tooLarge ∧ memoryLimit < size) (reserve size) := by
  rcases Nat.lt_or_ge memoryLimit size with large | fits
  · rw [reserve_of_lt large]
    exact .error ⟨rfl, large⟩
  · rw [reserve_of_le fits]
    exact .ok ()

namespace Store
variable {store : Store} {request : Request}

theorem denies_of_reports {α : Type} {outcome : Except Refusal α} (reports : Reports outcome) :
    Refuses (store.Denies request) outcome := reports.mono fun _ => Or.inl

theorem denies_of_reserve {size : Nat} (exceeds : memoryLimit < size → store.Exceeds request) :
    Refuses (store.Denies request) (reserve size) :=
  (refuses_reserve size).mono fun _ ⟨fault, large⟩ => Or.inr ⟨fault, exceeds large⟩

theorem denies_newBuffer (context size : Nat) (flags : UInt64) (host : Option Block) :
    Refuses (store.Denies (.createBuffer context flags size host))
      (store.newBuffer context flags size host) := by
  refine .bind (denies_of_reports (reports_context _)) fun _ live => ?_
  refine .bind (denies_of_reports (reports_checkMemoryFlags _ _)) fun _ permitted => ?_
  refine .bind (denies_of_reports (reports_require _ _)) fun _ _ => ?_
  exact .bind (denies_of_reserve (.buffer live permitted)) fun _ _ => .ok _

theorem denies_newImage (context : Nat) (flags : UInt64) (format : Option RawFormat)
    (descriptor : Option ImageDescriptor) (host : Option Block) :
    Refuses (store.Denies (.createImage context flags format descriptor host))
      (store.newImage context flags format descriptor host) := by
  refine .bind (denies_of_reports (reports_context _)) fun _ live => ?_
  refine .bind (denies_of_reports (reports_checkMemoryFlags _ _)) fun _ permitted => ?_
  split
  · exact denies_of_reports (reports_refuse _)
  · exact denies_of_reports (reports_refuse _)
  · split
    · exact denies_of_reports (reports_refuse _)
    · rename_i known
      refine .bind (denies_of_reports (reports_require _ _)) fun _ planar => ?_
      refine .bind (denies_of_reports (reports_require _ _)) fun _ _ => ?_
      refine .bind (denies_of_reports (reports_require _ _)) fun _ pitched => ?_
      refine .bind (denies_of_reserve fun large => ?_) fun _ _ => .ok _
      refine .image live permitted known ?_ ?_ large
      · simpa using require_ok_iff.mp planar
      · simpa using require_ok_iff.mp pitched

theorem newBuffer_of_large {context size : Nat} {flags : UInt64} {host : Option Block} {devices : List Nat}
    (live : store.context context = .ok devices) (permitted : checkMemoryFlags flags host.isSome = .ok ())
    (large : memoryLimit < size) : store.newBuffer context flags size host = .error (.fault .tooLarge) := by
  have positive : (size != 0) = true := by
    simp only [bne_iff_ne, ne_eq]
    omega
  simp only [newBuffer, live, permitted, positive, reserve_of_lt large, require, if_true, bind, Except.bind]

theorem newImage_of_large {context pixel : Nat} {flags : UInt64} {format : RawFormat}
    {layout : ImageDescriptor} {host : Option Block} {devices : List Nat}
    (live : store.context context = .ok devices) (permitted : checkMemoryFlags flags host.isSome = .ok ())
    (known : (ImageFormat.ofRaw format).pixelSize? = some pixel)
    (planar : layout.kind.raw = Listed.code MemoryKind.image2D)
    (pitched : layout.rowPitch = 0 ∨ host.isSome = true ∧ layout.width * pixel ≤ layout.rowPitch)
    (large : memoryLimit < layout.width * pixel * layout.height) :
    store.newImage context flags (some format) (some layout) host = .error (.fault .tooLarge) := by
  have kinded : (layout.kind.raw == Listed.code MemoryKind.image2D) = true := by simpa using planar
  have extended : (layout.width != 0 && layout.height != 0) = true := by
    have wide : layout.width ≠ 0 := fun none => by simp [none] at large
    have high : layout.height ≠ 0 := fun none => by simp [none] at large
    simp [wide, high]
  have spaced : (layout.rowPitch == 0 ||
      (host.isSome && decide (layout.width * pixel ≤ layout.rowPitch))) = true := by simpa using pitched
  simp only [newImage, live, permitted, known, kinded, extended, spaced, reserve_of_lt large, require,
    if_true, bind, Except.bind]

/-- The parts of a source are joined one after the other, so that the first ones may be too large. -/
theorem refuses_joinParts (joined : List String) (parts : List (Option String)) :
    Refuses (fun refusal => refusal.Reported ∨ refusal = .fault .tooLarge ∧
        ∃ front back, parts = List.map some front ++ back ∧
          memoryLimit < (String.join (joined ++ front)).utf8ByteSize)
      (joinParts (String.join joined) parts) := by
  induction parts generalizing joined with
  | nil => exact .ok _
  | cons first rest ih =>
    cases first with
    | none => exact (reports_refuse _).mono fun _ => Or.inl
    | some part =>
      have pushed : String.join joined ++ part = String.join (joined ++ [part]) := by simp
      rw [joinParts, pushed]
      refine .bind ?_ fun _ _ => (ih _).mono fun refusal reason => ?_
      · exact (refuses_reserve _).mono fun _ ⟨fault, large⟩ => Or.inr ⟨fault, [part], rest, rfl, large⟩
      · refine reason.imp_right fun ⟨fault, front, back, same, large⟩ => ?_
        rw [List.append_assoc] at large
        exact ⟨fault, part :: front, back, congrArg (some part :: ·) same, large⟩

theorem joinParts_of_large {joined front : List String} {back : List (Option String)}
    (fits : (String.join joined).utf8ByteSize ≤ memoryLimit)
    (large : memoryLimit < (String.join (joined ++ front)).utf8ByteSize) :
    joinParts (String.join joined) (front.map some ++ back) = .error (.fault .tooLarge) := by
  induction front generalizing joined with
  | nil =>
    rw [List.append_nil] at large
    omega
  | cons part rest ih =>
    have pushed : String.join joined ++ part = String.join (joined ++ [part]) := by simp
    rw [List.map_cons, List.cons_append, joinParts, pushed]
    rcases Nat.lt_or_ge memoryLimit (String.join (joined ++ [part])).utf8ByteSize with full | room
    · rw [reserve_of_lt full]
      rfl
    · rw [reserve_of_le room]
      exact ih room (by rwa [List.append_assoc])

theorem newProgram_of_large {context count : Nat} {front : List String} {parts back : List (Option String)}
    {devices : List Nat} (live : store.context context = .ok devices) (counted : count ≠ 0)
    (listed : parts.take count = front.map some ++ back)
    (large : memoryLimit < (String.join front).utf8ByteSize) :
    store.newProgram context count (some parts) false = .error (.fault .tooLarge) := by
  have wanted : (count != 0 && !false) = true := by simpa using counted
  have joined : joinParts "" (parts.take count) = .error (.fault .tooLarge) :=
    listed ▸ @joinParts_of_large [] front back (Nat.zero_le _) large
  simp only [newProgram, live, wanted, joined, require, if_true, bind, Except.bind]

theorem denies_newProgram (context count : Nat) (sources : Option (List (Option String)))
    (lengths : Bool) :
    Refuses (store.Denies (.createProgram context count sources lengths))
      (store.newProgram context count sources lengths) := by
  refine .bind (denies_of_reports (reports_context _)) fun _ live => ?_
  split
  · exact denies_of_reports (reports_refuse _)
  · rename_i parts
    refine .bind (denies_of_reports (reports_require _ _)) fun _ wanted => ?_
    refine .bind ((refuses_joinParts [] (parts.take count)).mono fun refusal reason => ?_) fun _ _ => .ok _
    obtain ⟨counted, plain⟩ : count ≠ 0 ∧ lengths = false := by simpa using require_ok_iff.mp wanted
    subst plain
    exact reason.imp_right fun ⟨fault, front, back, same, large⟩ => ⟨fault, .source live counted same large⟩

theorem reports_newKernel (program : Nat) (name : Option String) :
    Reports (store.newKernel program name) := by
  refine .bind (reports_program _) fun _ _ => .bind (reports_require _ _) fun _ _ => ?_
  split
  · exact reports_refuse _
  · split
    · exact reports_refuse _
    · exact .ok _

theorem reports_newUserEvent (context : Nat) : Reports (store.newUserEvent context) :=
  .bind (reports_context _) fun _ _ => .ok _

end Store

/-! Updates and waiting. -/

private theorem reports_argumentBytes (store : Store) (parameter : ParameterKind) (size : Nat)
    (value : Option Bytes) : Reports (argumentBytes store parameter size value) := by
  unfold argumentBytes
  split
  · exact reports_refuse _
  · exact .ite (fun _ => reports_refuse _) fun _ => .ok _
  · exact reports_refuse _
  · refine .ite (fun _ => reports_refuse _) fun _ => ?_
    split
    · exact .ok _
    · exact reports_refuse _
  · exact .ite (fun _ => reports_refuse _) fun _ => .ok _

theorem reports_waitList (store : Store) (waits : HandleList) : Reports (Machine.waitList store waits) := by
  unfold Machine.waitList
  split
  · exact .ite (fun _ => .ok _) fun _ => reports_refuse _
  · exact .ite (fun _ => reports_refuse _) fun _ => .bind (Store.reports_checkEvents _ _) fun _ _ => .ok _

namespace Store
variable {store : Store}

theorem reports_setArgument (id index size : Nat) (value : Option Bytes) :
    Reports (store.setArgument id index size value) := by
  refine .bind (reports_kernel _) fun kernel _ => ?_
  split
  · exact reports_refuse _
  · exact .bind (reports_argumentBytes _ _ _ _) fun _ _ => .ok _

theorem reports_settle (id : Nat) (status : Int) : Reports (store.settle id status) := by
  unfold settle
  split
  · exact .error (reports_event _ _ ‹_›)
  · exact reports_refuse _
  · exact .ite (fun _ => reports_refuse _) fun _ => .ite (fun _ => reports_refuse _) fun _ => .ok _

theorem reports_remove (kind : ObjectKind) (id : Nat) : Reports (store.remove kind id) := by
  unfold remove
  split
  · exact .ite (fun _ => .ok _) fun _ => reports_refuse _
  · exact reports_refuse _

theorem reports_waitOutcome (events : List Nat) : Reports (store.waitOutcome events) :=
  .ite (fun _ => reports_refuse _) fun _ => .ite (fun _ => reports_refuse _) fun _ => .ok _

/-! Commands. -/

private theorem reports_bufferRange (id offset size : Nat) : Reports (store.bufferRange id offset size) :=
  .bind (reports_memory _) fun _ _ => .bind (reports_require _ _) fun _ _ =>
    .bind (reports_require _ _) fun _ _ => .ok _

end Store

private theorem reports_imageWindow (origin extent : Option Triple) : Reports (imageWindow origin extent) := by
  unfold imageWindow
  split
  · exact .ite (fun _ => .ok _) fun _ => reports_refuse _
  · exact reports_refuse _

private theorem reports_imageRows (memory : Memory) (origin extent : Triple) (rowPitch : Nat) :
    Reports (imageRows memory origin extent rowPitch) := by
  unfold imageRows
  split
  · exact reports_refuse _
  · exact .ite (fun _ => reports_refuse _) fun _ => .ite (fun _ => reports_refuse _) fun _ => .ok _

/-- The first arguments of a kernel that squares, all bound to what squaring takes them for, and
fewer than it asks for. -/
structure Kernel.Short (kernel : Kernel) : Prop where
  named : kernel.signature.name = "square"
  bound : kernel.arguments.all Option.isSome = true
  few : kernel.arguments.length < 3
  wide : ∀ bytes, some bytes ∈ kernel.arguments → bytes.length = 8

/-- Sizes that pass all checks which are made before a kernel is carried out. -/
structure Dispatchable (count : Nat) (globals locals : Option (List Nat)) : Prop where
  dimensions : 1 ≤ count ∧ count ≤ 3
  sizes : ∃ sizes ∈ globals, 0 ∉ sizes.take count ∧
    ∀ groups ∈ locals, Store.groupsFit (sizes.take count) (groups.take count) = true

/-- The fault of a command: squaring looks for an argument behind the last parameter. -/
inductive Store.Overreaches (store : Store) : Command → Fault → Prop where
  | squaring {id count : Nat} {offsets globals locals : Option (List Nat)} {kernel : Kernel}
      (located : store.kernel id = .ok kernel) (short : kernel.Short)
      (dispatchable : Dispatchable count globals locals) :
      Overreaches store (.dispatch id count offsets globals locals)
        (.outside kernel.arguments.length kernel.arguments.length)

private theorem refuses_argumentNumber (arguments : List (Option Bytes)) (index width : Nat) :
    Refuses (fun refusal => refusal.Reported ∨
        arguments[index]? = none ∧ refusal = .fault (.outside arguments.length index))
      (argumentNumber arguments index width) := by
  unfold argumentNumber
  split
  · exact .error (Or.inr ⟨‹_›, rfl⟩)
  · exact .ite (fun _ => .ok _) fun _ => (reports_refuse _).mono fun _ => Or.inl

private theorem length_of_argumentNumber {arguments : List (Option Bytes)} {index width number : Nat}
    {bytes : Bytes} (numbered : argumentNumber arguments index width = .ok number)
    (bound : arguments[index]? = some (some bytes)) : bytes.length = width := by
  rw [argumentNumber, bound] at numbered
  dsimp only [Option.getD_some] at numbered
  split at numbered
  · assumption
  · cases numbered

namespace Store
variable {store : Store} {kernel : Kernel}

/-- Squaring a kernel that is too short fails at the first argument that is not there. -/
theorem runSquare_of_short (short : kernel.Short) (items : Nat) :
    store.runSquare kernel items =
      .error (.fault (.outside kernel.arguments.length kernel.arguments.length)) := by
  obtain ⟨signature, arguments⟩ := kernel
  have bound := short.bound
  have wide := short.wide
  have few := short.few
  match arguments with
  | [] => rfl
  | [none] | [none, _] | [some _, none] => simp at bound
  | [some first] =>
    have filled : first.length = 8 := wide first (List.mem_singleton.mpr rfl)
    simp [runSquare, argumentNumber, filled, bind, Except.bind]
  | [some first, some second] =>
    have filled : first.length = 8 := wide first (by simp)
    have full : second.length = 8 := wide second (by simp)
    simp [runSquare, argumentNumber, filled, full, bind, Except.bind]
  | _ :: _ :: _ :: rest =>
    simp only [List.length_cons] at few
    omega

/-- A kernel that squares is short if an argument is missing and those before it have been found. -/
private theorem short_of_missing {index : Nat} (named : kernel.signature.name = "square")
    (bound : kernel.arguments.all Option.isSome = true) (small : index < 3)
    (absent : kernel.arguments[index]? = none)
    (found : ∀ earlier < index, ∃ number, argumentNumber kernel.arguments earlier 8 = .ok number) :
    kernel.Short ∧ index = kernel.arguments.length := by
  have few := List.getElem?_eq_none_iff.mp absent
  have all : index = kernel.arguments.length := by
    rcases Nat.lt_or_eq_of_le few with less | same
    · obtain ⟨number, numbered⟩ := found kernel.arguments.length less
      rw [argumentNumber, List.getElem?_eq_none (Nat.le_refl _)] at numbered
      cases numbered
    · exact same.symm
  refine ⟨⟨named, bound, by omega, ?_⟩, all⟩
  intro bytes member
  obtain ⟨place, placed⟩ := List.getElem?_of_mem member
  have inside := (List.getElem?_eq_some_iff.mp placed).1
  obtain ⟨number, numbered⟩ := found place (by omega)
  exact length_of_argumentNumber numbered placed

/-- Squaring that runs into a fault was asked of a kernel that is too short. -/
theorem refuses_runSquare (named : kernel.signature.name = "square")
    (bound : kernel.arguments.all Option.isSome = true) (items : Nat) :
    Refuses (fun refusal => refusal.Reported ∨ kernel.Short ∧
        refusal = .fault (.outside kernel.arguments.length kernel.arguments.length))
      (store.runSquare kernel items) := by
  -- An argument is missing only behind the last one, if all before it have been read.
  have asks : ∀ index width, index < 3 →
      (∀ earlier < index, ∃ number, argumentNumber kernel.arguments earlier 8 = .ok number) →
      Refuses (fun refusal => refusal.Reported ∨ kernel.Short ∧
          refusal = .fault (.outside kernel.arguments.length kernel.arguments.length))
        (argumentNumber kernel.arguments index width) := by
    intro index width small found
    refine (refuses_argumentNumber _ index width).mono fun refusal reason => ?_
    rcases reason with reported | ⟨absent, fault⟩
    · exact Or.inl reported
    · obtain ⟨short, last⟩ := short_of_missing named bound small absent found
      rw [last] at fault
      exact Or.inr ⟨short, fault⟩
  refine .bind (asks 0 8 (by omega) (fun _ less => by omega)) fun source sourced => ?_
  refine .bind (asks 1 8 (by omega) fun earlier less => ?_) fun target aimed => ?_
  · cases show earlier = 0 by omega
    exact ⟨source, sourced⟩
  refine .bind (asks 2 4 (by omega) fun earlier less => ?_) fun limit _ => ?_
  · rcases show earlier = 0 ∨ earlier = 1 by omega with rfl | rfl
    · exact ⟨source, sourced⟩
    · exact ⟨target, aimed⟩
  refine Refuses.mono ?_ fun _ => Or.inl
  exact .bind (reports_memory _) fun _ _ => .bind (reports_require _ _) fun _ _ =>
    .bind (reports_memory _) fun _ _ => .bind (reports_require _ _) fun _ _ => .ok _

/-- A dispatch over sizes in order comes to what its kernel does. -/
theorem dispatch_of_dispatchable {id count : Nat} {globals locals : Option (List Nat)}
    (located : store.kernel id = .ok kernel) (bound : kernel.arguments.all Option.isSome = true)
    (dispatchable : Dispatchable count globals locals) :
    store.dispatch id count globals locals =
      if kernel.signature.name = "square" then
        store.runSquare kernel (((globals.getD []).take count).headD 0)
      else .ok {} := by
  have dimensions : (decide (1 ≤ count) && decide (count ≤ 3)) = true := by
    simpa using dispatchable.dimensions
  obtain ⟨sizes, given, filled, grouped⟩ := dispatchable.sizes
  have positive : (!(sizes.take count).contains 0) = true := by simpa using filled
  cases given
  cases locals with
  | none =>
    simp only [dispatch, located, bind, Except.bind, require, dimensions, positive, bound, if_true,
      Option.getD_some]
  | some groups =>
    have fitting := grouped groups rfl
    simp only [dispatch, located, bind, Except.bind, require, dimensions, positive, bound, fitting,
      if_true, Option.getD_some]

/-- A dispatch is refused with an error, or because its kernel squares and is too short. -/
theorem refuses_dispatch (id count : Nat) (offsets globals locals : Option (List Nat)) :
    Refuses (fun refusal => refusal.Reported ∨ ∃ fault, refusal = .fault fault ∧
        store.Overreaches (.dispatch id count offsets globals locals) fault)
      (store.dispatch id count globals locals) := by
  have reported : ∀ {α : Type} {outcome : Except Refusal α}, Reports outcome →
      Refuses (fun refusal => refusal.Reported ∨ ∃ fault, refusal = .fault fault ∧
        store.Overreaches (.dispatch id count offsets globals locals) fault) outcome :=
    fun reports => reports.mono fun _ => Or.inl
  refine .bind (reported (reports_kernel id)) fun kernel located => ?_
  refine .bind (reported (reports_require _ _)) fun _ dimensioned => ?_
  cases globals with
  | none => exact reported (reports_refuse _)
  | some sizes =>
    refine .bind (reported (reports_require _ _)) fun _ positive => ?_
    -- What is left to do once the work groups are known to fit.
    have carried (grouped : ∀ groups ∈ locals,
        Store.groupsFit (sizes.take count) (groups.take count) = true) (bound : Unit)
        (complete : require (kernel.arguments.all Option.isSome) .invalidKernelArgs = .ok bound) :
        Refuses (fun refusal => refusal.Reported ∨ ∃ fault, refusal = .fault fault ∧
            store.Overreaches (.dispatch id count offsets (some sizes) locals) fault)
          (if kernel.signature.name = "square" then
            store.runSquare kernel ((sizes.take count).headD 0)
          else .ok {}) := by
      refine .ite (fun named => ?_) fun _ => .ok _
      refine (refuses_runSquare named (require_ok_iff.mp complete) _).mono fun refusal reason => ?_
      rcases reason with failing | ⟨short, fault⟩
      · exact Or.inl failing
      · refine Or.inr ⟨_, fault, .squaring located short ⟨?_, sizes, rfl, ?_, grouped⟩⟩
        · simpa using require_ok_iff.mp dimensioned
        · simpa using require_ok_iff.mp positive
    cases locals with
    | none =>
      refine .bind (.ok ()) fun _ _ => ?_
      refine .bind (reported (reports_require _ _)) (carried fun groups impossible => ?_)
      cases impossible
    | some groups =>
      refine .bind (reported (reports_require _ _)) fun _ fitting => ?_
      refine .bind (reported (reports_require _ _)) (carried fun others same => ?_)
      cases same
      exact require_ok_iff.mp fitting

/-- A command is refused with an error, or because it reaches for an argument that is not there. -/
theorem refuses_effect (command : Command) :
    Refuses (fun refusal => refusal.Reported ∨ ∃ fault, refusal = .fault fault ∧
        store.Overreaches command fault) (store.effect command) := by
  cases command with
  | dispatch id count offsets globals locals => exact refuses_dispatch id count offsets globals locals
  | readBuffer buffer offset size target =>
    refine Refuses.mono ?_ fun _ => Or.inl
    exact .bind (reports_bufferRange _ _ _) fun _ _ => .bind (reports_require _ _) fun _ _ => .ok _
  | writeBuffer buffer offset size data =>
    refine (Refuses.bind (reports_bufferRange _ _ _) fun _ _ => ?_).mono fun _ => Or.inl
    split
    · exact reports_refuse _
    · exact .ok _
  | copyBuffer source target sourceOffset targetOffset size =>
    refine Refuses.mono ?_ fun _ => Or.inl
    exact .bind (reports_bufferRange _ _ _) fun _ _ => .bind (reports_bufferRange _ _ _) fun _ _ =>
      .bind (reports_require _ _) fun _ _ => .ok _
  | fillBuffer buffer pattern patternSize offset size =>
    refine (Refuses.bind (reports_bufferRange _ _ _) fun _ _ => ?_).mono fun _ => Or.inl
    split
    · exact reports_refuse _
    · exact .bind (reports_require _ _) fun _ _ => .ok _
  | readImage image origin extent rowPitch slicePitch target =>
    refine Refuses.mono ?_ fun _ => Or.inl
    exact .bind (reports_imageWindow _ _) fun _ _ => .bind (reports_memory _) fun _ _ =>
      .bind (reports_imageRows _ _ _ _) fun _ _ => .bind (reports_require _ _) fun _ _ => .ok _
  | writeImage image origin extent rowPitch slicePitch data =>
    refine Refuses.mono ?_ fun _ => Or.inl
    refine .bind (reports_imageWindow _ _) fun _ _ => .bind (reports_memory _) fun _ _ =>
      .bind (reports_imageRows _ _ _ _) fun _ _ => ?_
    split
    · exact reports_refuse _
    · exact .ok _
  | barrier | marker => exact .ok _

theorem effect_of_overreaches {command : Command} {fault : Fault}
    (overreaches : store.Overreaches command fault) : store.effect command = .error (.fault fault) := by
  cases overreaches with
  | squaring located short dispatchable =>
    rw [effect, dispatch_of_dispatchable located short.bound dispatchable, if_pos short.named]
    exact runSquare_of_short short _

end Store
end Simulator
end Offload
