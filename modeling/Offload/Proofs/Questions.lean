import Offload.Proofs.Encoding
import Offload.Proofs.Answers
import Offload.Proofs.Programs

/-! Questions whose answer is a text. A driver that answers them in the usual way has the text
taken over whole, whatever the size of the first buffer is. -/
namespace Offload.Host
open Simulator

namespace Question
variable {σ : Type}

/-- The windows with which a text of some length is asked for: the first buffer and, where it is
too small, the length and a buffer that suits it. -/
def windows (size length : Nat) : List Window :=
  if length ≤ size then [⟨size, true, true⟩]
  else [⟨size, true, true⟩, ⟨0, false, true⟩, ⟨length, true, false⟩]

variable {question : Question σ} {among : σ → Prop} {bytes : Bytes} {scene : Scene σ} {size : Nat}

theorem perform_string_failed {response : Response} {error : CallError}
    (answered : (question ⟨size, true, true⟩ scene.world).1 = .ok response)
    (failed : check response.status = .error error) :
    (question.string size).perform scene = (.error (.failed error),
      { scene with world := question.afterAll [⟨size, true, true⟩] scene.world }) := by
  rw [string, Action.perform_bind, perform_fetch_failed answered failed]

/-- A text is taken over whole if the buffer is large enough, and refused otherwise. -/
theorem perform_string (answers : question.Answers among bytes) (inside : among scene.world)
    (size : Nat) :
    (question.string size).perform scene =
      (if bytes.length ≤ size then .ok (Text.Utf8.decode bytes.untilZero)
        else .error (.failed (.native .invalidValue)),
        { scene with world := question.afterAll [⟨size, true, true⟩] scene.world }) := by
  by_cases room : bytes.length ≤ size
  · obtain ⟨buffer, length, stored, counted, fetched⟩ := perform_fetch answers inside room true
    have kept : (buffer.window 0 length).bytes = bytes := by
      rw [Block.bytes_window, stored, counted rfl, Bytes.window, List.drop_zero, List.take_left]
    rw [string, Action.perform_bind, fetched, if_pos room]
    dsimp only
    rw [Action.perform_pure, textOf, Block.untilZero_eq, kept]
  · obtain ⟨response, answered, usual, _⟩ := answers scene.world inside ⟨size, true, true⟩
    have failed := ofStatus?_eq_native_iff.mpr (usual.refused rfl (Nat.lt_of_not_le room))
    rw [perform_string_failed answered (check_eq_error_iff.mpr failed), if_neg room]

private theorem perform_exactString (answers : question.Answers among bytes) (inside : among scene.world)
    (fits : bytes.length ≤ memoryLimit) :
    question.exactString.perform scene = (.ok (Text.Utf8.decode bytes.untilZero),
      { scene with world :=
        question.afterAll [⟨0, false, true⟩, ⟨bytes.length, true, false⟩] scene.world }) := by
  rw [exactString, Action.perform_bind, perform_length answers inside]
  dsimp only
  rw [Action.perform_bind, reserve_of_le fits, Action.perform_ofFaulty_ok]
  dsimp only
  have still := answers.after inside [⟨0, false, true⟩]
  obtain ⟨buffer, _, stored, _, fetched⟩ := @perform_fetch _ _ _ _
    { scene with world := question.afterAll [⟨0, false, true⟩] scene.world } _ answers still
    (Nat.le_refl bytes.length) false
  rw [Action.perform_bind, fetched]
  dsimp only
  rw [Action.perform_pure, textOf, Block.untilZero_eq, stored, Bytes.untilZero_append_zeros]
  rfl

/-- A long text is taken over whole whatever the size of the first buffer is. -/
theorem perform_longString (answers : question.Answers among bytes) (inside : among scene.world)
    (fits : bytes.length ≤ memoryLimit) (size : Nat) :
    (question.longString size).perform scene = (.ok (Text.Utf8.decode bytes.untilZero),
      { scene with world := question.afterAll (windows size bytes.length) scene.world }) := by
  rw [longString, Action.perform_tryCatch, perform_string answers inside size, windows]
  by_cases room : bytes.length ≤ size
  · rw [if_pos room, if_pos room]
  · rw [if_neg room, if_neg room]
    dsimp only
    have still := answers.after inside [⟨size, true, true⟩]
    exact @perform_exactString _ _ _ _
      { scene with world := question.afterAll [⟨size, true, true⟩] scene.world } answers still fits

end Question

/-- A kernel that was just made is there under the name that was asked for. -/
theorem newKernel_stored {program : Program} {name : String} {scene after : Scene Machine}
    {kernel : Kernel} (reachable : scene.world.Reachable)
    (performed : (program.newKernel Machine.driver name).perform scene = (.ok kernel, after)) :
    '\x00' ∉ name.toList ∧ kernel.name = name ∧ kernel.owned.handle ≠ 0 ∧
      after.world.halted = false ∧ ∃ stored, stored.signature.name = name ∧
        scene.world.store.newKernel program.owned.handle (some name) = .ok (.kernel stored) ∧
        after.world.store.kernel kernel.owned.handle = .ok stored := by
  obtain ⟨free, response, answered, handled, rfl⟩ := newKernel_answered performed
  obtain ⟨_, object, accepted, next, stored⟩ := created_of_answered rfl answered handled
  obtain ⟨signature, named, rfl⟩ := Store.newKernel_ok accepted
  refine ⟨free, rfl, handled, serving_of_answered answered, _, ?_, accepted, ?_⟩
  · exact (Option.some.inj named).symm
  · rw [Store.kernel_ok_iff, next, stored]
    exact reachable.orderly.find?_add _

/-- The name of a kernel is taken over in one call, if a buffer of 256 bytes holds it. -/
theorem Kernel.perform_functionName {kernel : Kernel} {stored : Simulator.Kernel} {scene : Scene Machine}
    (held : kernel.owned.handle ≠ 0) (serving : scene.world.halted = false)
    (allowed : scene.world.injection.failure? (.info .kernel) = none)
    (located : scene.world.store.kernel kernel.owned.handle = .ok stored)
    (free : '\x00' ∉ stored.signature.name.toList) :
    (kernel.functionName Machine.driver).perform scene =
      (if stored.signature.name.utf8ByteSize ≤ 255 then .ok stored.signature.name
        else .error (.failed (.native .invalidValue)),
        { scene with world := scene.world.counted (.info (.kernel kernel.owned.handle)
          KernelParameter.functionName.code ⟨256, true, true⟩) }) := by
  have known : scene.world.store.information (.kernel kernel.owned.handle)
      KernelParameter.functionName.code = .ok (textBytes stored.signature.name) := by
    rw [Store.information, located]
    rfl
  have informs : Informs scene.world.store .kernel scene.world := ⟨rfl, serving, allowed⟩
  rw [functionName, (settles_use held).perform_bind,
    Question.perform_string (answers_information known) informs, afterAll_information known informs,
    decode_textBytes free, length_textBytes]
  simp only [Nat.add_one_le_iff, Nat.lt_succ_iff]
  rfl

/-- Questions for texts give the text: with a buffer of a fixed size exactly if it holds the whole
answer, and without regard to the size of the first buffer if the length may be asked for. Texts
without NUL come back as they were stored, and a kernel tells the name it was made under. -/
theorem text_questions_exact :
    (∀ bytes : Bytes, Question.Answers
      (fun window (machine : Machine) => machine.query (respond bytes window)) (fun _ => True) bytes) ∧
    (∀ {σ : Type} (question : Question σ) (among : σ → Prop) (bytes : Bytes),
      question.Answers among bytes → ∀ (size : Nat) (scene : Scene σ), among scene.world →
        (question.string size).perform scene =
          (if bytes.length ≤ size then .ok (Text.Utf8.decode bytes.untilZero)
            else .error (.failed (.native .invalidValue)),
            { scene with world := question.afterAll [⟨size, true, true⟩] scene.world }) ∧
        (bytes.length ≤ memoryLimit → (question.longString size).perform scene =
          (.ok (Text.Utf8.decode bytes.untilZero),
            { scene with world :=
              question.afterAll (Question.windows size bytes.length) scene.world }))) ∧
    (∀ {σ : Type} (question : Question σ) (among : σ → Prop) (text : String), '\x00' ∉ text.toList →
      question.Answers among (textBytes text) → ∀ (size : Nat) (scene : Scene σ), among scene.world →
        ((question.string size).perform scene).1 =
          (if text.utf8ByteSize < size then .ok text else .error (.failed (.native .invalidValue))) ∧
        (text.utf8ByteSize < memoryLimit → ((question.longString size).perform scene).1 = .ok text)) ∧
    ∀ (program : Program) (name : String) (scene after : Scene Machine) (kernel : Kernel),
      scene.world.Reachable →
      (program.newKernel Machine.driver name).perform scene = (.ok kernel, after) →
      after.world.injection.failure? (.info .kernel) = none →
        kernel.name = name ∧
        (kernel.functionName Machine.driver).perform after =
          (if name.utf8ByteSize ≤ 255 then .ok name else .error (.failed (.native .invalidValue)),
            { after with world := after.world.counted (.info (.kernel kernel.owned.handle)
              KernelParameter.functionName.code ⟨256, true, true⟩) }) := by
  refine ⟨?_, ?_, ?_, ?_⟩
  · intro bytes
    exact .of_respond (fun machine _ _ => ⟨machine, rfl⟩) fun _ _ _ => trivial
  · intro σ question among bytes answers size scene inside
    exact ⟨Question.perform_string answers inside size,
      fun fits => Question.perform_longString answers inside fits size⟩
  · intro σ question among text free answers size scene inside
    rw [Question.perform_string answers inside size, decode_textBytes free, length_textBytes]
    refine ⟨rfl, fun fits => ?_⟩
    rw [Question.perform_longString answers inside (Nat.le_trans (Nat.le_of_eq (length_textBytes _)) fits),
      decode_textBytes free]
  · intro program name scene after kernel reachable performed allowed
    obtain ⟨free, named, held, serving, stored, rfl, _, located⟩ := newKernel_stored reachable performed
    exact ⟨named, Kernel.perform_functionName held serving allowed located free⟩

/-- A driver that answers one question, and keeps the windows it was put with. -/
def Question.recorded (bytes : Bytes) : Question (List Window) := fun window asked =>
  ((({} : Machine).query (respond bytes window)).1, asked ++ [window])

private theorem Question.recorded_answers (bytes : Bytes) :
    (Question.recorded bytes).Answers (fun _ => True) bytes :=
  .of_respond (fun _ _ _ => ⟨{}, rfl⟩) fun _ _ _ => trivial

/-- A runtime with a built program of one kernel. -/
@[irreducible]
def kernelBench : Machine :=
  (Machine.ofTopology 1 1).run [.call (.createContext ⟨1, some [deviceId 0 0]⟩),
    .call (.createProgram (handleOf 1) 1 (some [some "__kernel void f(int n)\x7b\x7d"]) false),
    .call (.buildProgram (handleOf 2) ⟨0, none⟩ none)]

/-- The kernel is made. -/
@[irreducible]
def kernelMaking : Except Stop Kernel × Scene Machine :=
  (Program.newKernel Machine.driver ⟨⟨handleOf 2⟩, [⟨deviceId 0 0⟩]⟩ "f").perform ⟨kernelBench, []⟩

private theorem kernelMaking_ends :
    kernelMaking.1.toOption = some ⟨⟨handleOf 3⟩, "f"⟩ ∧
      kernelMaking.2.world.injection = {} := by decide +kernel

theorem texts_told :
    (((Question.recorded (textBytes "\u00e9")).string 2).perform ⟨[], []⟩ =
        (.error (.failed (.native .invalidValue)), ⟨[⟨2, true, true⟩], []⟩) ∧
      ((Question.recorded (textBytes "\u00e9")).longString 2).perform ⟨[], []⟩ =
        (.ok "\u00e9", ⟨[⟨2, true, true⟩, ⟨0, false, true⟩, ⟨3, true, false⟩], []⟩)) ∧
      ∃ kernel after, kernelMaking = (.ok kernel, after) ∧
        ((kernel.functionName Machine.driver).perform after).1 = .ok "f" := by
  obtain ⟨_, exact, told, named⟩ := text_questions_exact
  have answers := Question.recorded_answers (textBytes "\u00e9")
  obtain ⟨short, long⟩ := exact _ _ _ answers 2 ⟨[], []⟩ trivial
  replace long := long (by decide +kernel)
  obtain ⟨_, whole⟩ := told _ _ "\u00e9" (by decide +kernel) answers 2 ⟨[], []⟩ trivial
  replace whole := whole (by decide +kernel)
  refine ⟨⟨short, ?_⟩, ?_⟩
  · rw [long] at whole ⊢
    exact Prod.ext whole rfl
  · rcases made : kernelMaking with ⟨_ | kernel, after⟩
    · obtain ⟨impossible, _⟩ := kernelMaking_ends
      rw [made] at impossible
      cases impossible
    · obtain ⟨same, free⟩ := kernelMaking_ends
      rw [made] at same free
      cases same
      have reachable : kernelBench.Reachable := by
        unfold kernelBench
        exact ⟨1, 1, _, rfl⟩
      have allowed : after.world.injection.failure? (.info .kernel) = none := by
        rw [free]
        rfl
      unfold kernelMaking at made
      refine ⟨_, after, rfl, ?_⟩
      have short : "f".utf8ByteSize ≤ 255 := by decide +kernel
      rw [(named _ "f" ⟨kernelBench, []⟩ after _ reachable made allowed).2, if_pos short]

end Offload.Host
