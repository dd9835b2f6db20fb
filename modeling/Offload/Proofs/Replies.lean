import Offload.Proofs.Questions
import Offload.Script

/-! Questions for texts, put to any driver. It may reply with any status, store anything anywhere,
report any length, or run into a fault, each time as it likes; what is read afterwards are bytes of
the buffer that was brought, and a text is asked for at most three times. No buffer is brought for a
length that is too large for one: asking ends there, with a fault. -/
namespace Offload.Host.Question

/-- What a buffer of zeros holds once a reply was stored in it. -/
def held (size : Nat) (response : Response) : Bytes := ((Block.zeros size).patch response.writes).bytes

/-- A reply leaves a buffer as large as it is. -/
@[simp] theorem length_held (size : Nat) (response : Response) : (held size response).length = size := by
  rw [held, Block.length_bytes, Block.size_patch]
  rfl

/-- The text at the start of a buffer, in as much of it as is reported to be filled. -/
def told (size : Nat) (response : Response) : String :=
  Text.Utf8.decode
    (Bytes.untilZero ((held size response).take (min (response.reported.getD 0) size)))

/-- The text in the whole of a buffer. -/
def toldWhole (size : Nat) (response : Response) : String :=
  Text.Utf8.decode (Bytes.untilZero (held size response))

variable {σ : Type} (question : Question σ)

/-- The scene once a question was put with these windows, one call for each. -/
def sceneAfter (windows : List Window) (scene : Scene σ) : Scene σ :=
  { scene with world := question.afterAll windows scene.world }

/-- The same question to a driver that keeps the windows it was put with, in order. -/
def traced : Question (σ × List Window) := fun window known =>
  let (reply, state) := question window known.1
  (reply, state, known.2 ++ [window])

private theorem afterAll_traced (windows asked : List Window) (state : σ) :
    question.traced.afterAll windows (state, asked) =
      (question.afterAll windows state, asked ++ windows) := by
  induction windows generalizing state asked with
  | nil => rw [List.append_nil]; rfl
  | cons window rest ih =>
    have moved := ih (asked ++ [window]) (question window state).2
    rw [List.append_assoc, List.singleton_append] at moved
    exact moved

variable (size : Nat) (scene : Scene σ)

theorem perform_string_heard :
    (question.string size).perform scene =
      ((heard (question ⟨size, true, true⟩ scene.world).1).map (told size),
        question.sceneAfter [⟨size, true, true⟩] scene) := by
  have read (response : Response) : textOf (((Block.zeros size).patch response.writes).window 0
      (response.reported.getD 0)) = told size response := by
    have clipped : (held size response).take (min (response.reported.getD 0) size) =
        (held size response).take (response.reported.getD 0) := by
      rw [List.take_eq_take_iff, length_held]
      omega
    rw [textOf, Block.untilZero_eq, Block.bytes_window, Bytes.window, List.drop_zero, told, clipped, held]
  simp only [string, fetch, bind_assoc, pure_bind, read]
  rw [perform_heard]
  rcases heard (question ⟨size, true, true⟩ scene.world).1 with stop | response <;> rfl

/-- The length is asked for first, and then a buffer of just this length is brought; what keeps the
length from being heard, or the buffer from being there, keeps the second call from being made. -/
theorem perform_exactString_heard :
    question.exactString.perform scene =
      match heard (question ⟨0, false, true⟩ scene.world).1 with
      | .error stop => (.error stop, question.sceneAfter [⟨0, false, true⟩] scene)
      | .ok answer =>
        let length := answer.reported.getD 0
        let asked := question.sceneAfter [⟨0, false, true⟩] scene
        if length ≤ memoryLimit then
          ((heard (question ⟨length, true, false⟩ asked.world).1).map (toldWhole length),
            question.sceneAfter [⟨length, true, false⟩] asked)
        else (.error (.faulted .tooLarge), asked) := by
  have read (size : Nat) (response : Response) :
      textOf ((Block.zeros size).patch response.writes) = toldWhole size response := by
    rw [textOf, Block.untilZero_eq, toldWhole, held]
  simp only [exactString, Question.length, fetch, bind_assoc, pure_bind, read]
  rw [perform_heard]
  rcases heard (question ⟨0, false, true⟩ scene.world).1 with stop | answer
  · rfl
  · dsimp only [sceneAfter]
    rw [Action.perform_bind]
    rcases Nat.lt_or_ge memoryLimit (answer.reported.getD 0) with large | fits
    · rw [reserve_of_lt large, if_neg (Nat.not_le_of_lt large)]
      rfl
    · rw [reserve_of_le fits, if_pos fits, Action.perform_ofFaulty_ok]
      dsimp only
      rw [perform_heard]
      rcases heard (question _ _).1 with stop | response <;> rfl

/-- Texts are safe to ask of any driver. With a buffer of a fixed size one call is made; its error is
returned, and otherwise the text in the reported part of the buffer, of which there is never more than
the buffer holds. A long text makes this call and returns what comes of it, unless that is a refused
value; the length is asked for then and, once it is known, a buffer of just this length is brought, if
there can be one. The first error of these two calls is returned, and otherwise the text in that last
buffer. -/
theorem texts_safe_with_any_driver :
    (∀ size response, (held size response).length = size) ∧
    (∀ windows asked state, question.traced.afterAll windows (state, asked) =
      (question.afterAll windows state, asked ++ windows)) ∧
    (question.string size).perform scene =
      ((heard (question ⟨size, true, true⟩ scene.world).1).map (told size),
        question.sceneAfter [⟨size, true, true⟩] scene) ∧
    (question.longString size).perform scene =
      match heard (question ⟨size, true, true⟩ scene.world).1 with
      | .error (.failed (.native .invalidValue)) =>
        let refused := question.sceneAfter [⟨size, true, true⟩] scene
        match heard (question ⟨0, false, true⟩ refused.world).1 with
        | .error stop =>
          (.error stop, question.sceneAfter [⟨size, true, true⟩, ⟨0, false, true⟩] scene)
        | .ok answer =>
          let length := answer.reported.getD 0
          let asked := question.sceneAfter [⟨size, true, true⟩, ⟨0, false, true⟩] scene
          if length ≤ memoryLimit then
            ((heard (question ⟨length, true, false⟩ asked.world).1).map (toldWhole length),
              question.sceneAfter
                [⟨size, true, true⟩, ⟨0, false, true⟩, ⟨length, true, false⟩] scene)
          else (.error (.faulted .tooLarge), asked)
      | outcome => (outcome.map (told size), question.sceneAfter [⟨size, true, true⟩] scene) := by
  refine ⟨length_held, afterAll_traced question, perform_string_heard question size scene, ?_⟩
  rw [longString, Action.perform_tryCatch, perform_string_heard]
  -- a refused value is the only thing heard that the handler does not pass on
  rcases heard (question ⟨size, true, true⟩ scene.world).1 with (error | found) | response
  · cases error
    case native native =>
      cases native
      case invalidValue => exact perform_exactString_heard question _
      all_goals rfl
    all_goals rfl
  · rfl
  · rfl

/-- The length of a long text that is asked for again may be heard, and yet be too large for a buffer:
no third call is made then, and no text or error comes back. -/
theorem longString_without_buffer :
    let script : Script := { next := ⟨NativeError.invalidValue.code, [104, 105], none⟩
                             later := [⟨0, [], some 0xFFFFFFFFFFFFFFFF⟩, ⟨0, [104, 105], none⟩] }
    let asked := [⟨4, true, true⟩, ⟨0, false, true⟩]
    (script.advanced ⟨4, true, true⟩).run Question.length = (.ok 0xFFFFFFFFFFFFFFFF, asked) ∧
      script.run (·.longString 4) = (.error (.faulted .tooLarge), asked) := ⟨rfl, rfl⟩

/-- Of the refused first buffer nothing is read, and of the last one no byte behind its end. -/
example :
    let script : Script := { next := ⟨NativeError.invalidValue.code, [108, 101, 97, 107], some 90⟩
                             later := [⟨0, [], some 2⟩, ⟨0, [104, 101, 108, 100], none⟩] }
    (script.run (·.longString 4)).1.toOption = some "he" ∧
      (script.run (·.longString 4)).2 = [⟨4, true, true⟩, ⟨0, false, true⟩, ⟨2, true, false⟩] := by
  decide +kernel

end Offload.Host.Question
