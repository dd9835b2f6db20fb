import Offload.Proofs.Questions

/-! What a build comes to. A driver that reports a failed build is asked for the log of the
first device, and the whole log becomes the error; where the log says nothing or cannot be had,
the bare failure does. No other answer is asked about any further. -/
namespace Offload.Host
open Simulator

variable {σ : Type}

theorem perform_use {kind : ObjectKind} {owned : Owned kind} (held : owned.handle ≠ 0) (scene : Scene σ) :
    owned.use.perform scene = (.ok owned.handle, scene) := by
  rw [Owned.use, if_neg held, Action.perform_pure]

/-- A status other than success is an error. -/
theorem exists_check_error {status : Int} (failed : status ≠ 0) :
    ∃ error, check status = .error error := by
  cases checked : check status with
  | ok success => exact absurd (check_ok_iff.mp checked) failed
  | error error => exact ⟨error, rfl⟩

namespace Question

/-- A driver that refuses to tell the length of an answer, or the answer once it is known how long
it is; with the windows of the calls up to there. -/
inductive RefusedExactly (question : Question σ) (state : σ) : List Window → Prop where
  | length {response : Response} (answered : (question ⟨0, false, true⟩ state).1 = .ok response)
      (failed : response.status ≠ 0) : RefusedExactly question state [⟨0, false, true⟩]
  | buffer {measure response : Response}
      (measured : (question ⟨0, false, true⟩ state).1 = .ok measure) (success : measure.status = 0)
      (fits : measure.reported.getD 0 ≤ memoryLimit)
      (answered : (question ⟨measure.reported.getD 0, true, false⟩
        (question.afterAll [⟨0, false, true⟩] state)).1 = .ok response)
      (failed : response.status ≠ 0) :
      RefusedExactly question state [⟨0, false, true⟩, ⟨measure.reported.getD 0, true, false⟩]

/-- A driver that refuses a question for another reason than the size of the first buffer, or that
takes it for too small and refuses what is asked then. -/
inductive Refused (question : Question σ) (size : Nat) (state : σ) : List Window → Prop where
  | first {response : Response} (answered : (question ⟨size, true, true⟩ state).1 = .ok response)
      (failed : response.status ≠ 0) (other : response.status ≠ NativeError.invalidValue.code) :
      Refused question size state [⟨size, true, true⟩]
  | again {response : Response} {windows : List Window}
      (answered : (question ⟨size, true, true⟩ state).1 = .ok response)
      (small : response.status = NativeError.invalidValue.code)
      (refused : question.RefusedExactly (question.afterAll [⟨size, true, true⟩] state) windows) :
      Refused question size state (⟨size, true, true⟩ :: windows)

variable {question : Question σ} {scene : Scene σ} {size : Nat} {windows : List Window}

private theorem perform_exactString_refused (refused : question.RefusedExactly scene.world windows) :
    ∃ error, question.exactString.perform scene = (.error (.failed error),
      { scene with world := question.afterAll windows scene.world }) := by
  cases refused with
  | length answered failed =>
    obtain ⟨error, failed⟩ := exists_check_error failed
    refine ⟨error, ?_⟩
    rw [exactString, Action.perform_bind, perform_length_failed answered failed]
  | buffer measured success fits answered failed =>
    obtain ⟨error, failed⟩ := exists_check_error failed
    refine ⟨error, ?_⟩
    rw [exactString, Action.perform_bind, perform_length_answered measured success]
    dsimp only
    rw [Action.perform_bind, reserve_of_le fits, Action.perform_ofFaulty_ok]
    dsimp only
    rw [Action.perform_bind, perform_fetch_failed answered failed]
    rfl

/-- A refused question ends with an error, once the calls up to there have been made. -/
theorem perform_longString_refused (refused : question.Refused size scene.world windows) :
    ∃ error, (question.longString size).perform scene = (.error (.failed error),
      { scene with world := question.afterAll windows scene.world }) := by
  cases refused with
  | first answered failed other =>
    obtain ⟨error, checked⟩ := exists_check_error failed
    refine ⟨error, ?_⟩
    rw [longString, Action.perform_tryCatch, perform_string_failed answered checked]
    dsimp only
    split
    · rename_i same
      cases same
      exact absurd (ofStatus?_eq_native_iff.mp (check_eq_error_iff.mp checked)) other
    · rfl
  | again answered small refused =>
    have checked := check_eq_error_iff.mpr (ofStatus?_eq_native_iff.mpr small)
    obtain ⟨error, ended⟩ := @perform_exactString_refused _ _
      { scene with world := question.afterAll [⟨size, true, true⟩] scene.world } _ refused
    refine ⟨error, ?_⟩
    rw [longString, Action.perform_tryCatch, perform_string_failed answered checked]
    exact ended

end Question
namespace Program
variable {driver : Driver σ} {program : Program} {device : Device} {others : List Device}
  {scene : Scene σ}

/-- The call by which a program is built. -/
def buildRequest (program : Program) (devices : List Device) (options : String) : Request :=
  .buildProgram program.owned.handle (.ofList (idsOf devices))
    (if options.isEmpty then none else some options)

/-- What a driver is asked when a build has failed. -/
def logQuestion (driver : Driver σ) (program : Program) (device : Device) : Question σ :=
  Question.info driver (.build program.owned.handle device.id) BuildParameter.log.code

/-- What a failed build is reported as: the log, unless it is blank. -/
def failureOf (log : String) : CallError :=
  if log.toList.any fun char => !Text.isBlank char then .build log else .native .buildProgramFailure

theorem failureOf_of_visible {log : String} (visible : ∃ char ∈ log.toList, Text.isBlank char = false) :
    failureOf log = .build log := by
  obtain ⟨char, member, shown⟩ := visible
  exact if_pos (List.any_eq_true.mpr ⟨char, member, by rw [shown]; rfl⟩)

theorem perform_buildLog (held : program.owned.handle ≠ 0) (scene : Scene σ) :
    (program.buildLog driver device).perform scene =
      ((program.logQuestion driver device).longString 2048).perform scene := by
  rw [buildLog, ask, Action.perform_bind, perform_use held]
  rfl

private theorem failureOf_eq (log : String) :
    failureOf log =
      if Text.isAllBlank log.toList then .native .buildProgramFailure else .build log := by
  have opposite : (log.toList.any fun char => !Text.isBlank char) = !Text.isAllBlank log.toList := by
    rw [Text.isAllBlank, List.not_all_eq_any_not]
  rw [failureOf, opposite]
  cases Text.isAllBlank log.toList <;> rfl

/-- A log that the driver has told becomes the error if it says anything. -/
theorem perform_buildFailure {log : String} {after : Scene σ} (owned : program.devices = device :: others)
    (told : (program.buildLog driver device).perform scene = (.ok log, after)) :
    ∃ notices, (program.buildFailure driver).perform scene =
      (.ok (failureOf log), ⟨after.world, notices⟩) := by
  rw [buildFailure, owned]
  dsimp only
  rw [Action.perform_bind, Action.perform_outcome, told, failureOf_eq]
  dsimp only
  split
  · exact ⟨.buildLogEmpty :: after.notices, rfl⟩
  · exact ⟨.buildFailed (String.ofList (firstLine log.toList)) :: after.notices, rfl⟩

private theorem perform_buildFailure_untold {error : CallError} {after : Scene σ}
    (owned : program.devices = device :: others)
    (untold : (program.buildLog driver device).perform scene = (.error (.failed error), after)) :
    ∃ notices, (program.buildFailure driver).perform scene =
      (.ok (.native .buildProgramFailure), ⟨after.world, notices⟩) := by
  rw [buildFailure, owned]
  dsimp only
  rw [Action.perform_bind, Action.perform_outcome, untold]
  exact ⟨.buildLogUnavailable error :: after.notices, rfl⟩

section
variable {devices : List Device} {options : String} {response : Response} {world : σ}

/-- A failed build ends with what it is reported as. -/
theorem perform_build_failed (held : program.owned.handle ≠ 0) (free : '\x00' ∉ options.toList)
    (called : driver (program.buildRequest devices options) scene.world = (.ok response, world))
    (failed : response.status = NativeError.buildProgramFailure.code) {error : CallError}
    {after : Scene σ}
    (reported : (program.buildFailure driver).perform
      ⟨world, .building program.owned.handle devices.length :: scene.notices⟩ = (.ok error, after)) :
    (program.build driver devices options).perform scene = (.error (.failed error), after) := by
  unfold buildRequest at called
  simp only [build, Action.perform_bind, perform_withoutNul, if_neg free, perform_use held,
    Action.perform_note, Action.perform_call, called, ofStatus?_eq_native_iff.mpr failed, reported,
    Action.perform_fail]

/-- Any other answer is translated and nothing more is called. -/
theorem perform_build_other (held : program.owned.handle ≠ 0) (free : '\x00' ∉ options.toList)
    (called : driver (program.buildRequest devices options) scene.world = (.ok response, world))
    (other : response.status ≠ NativeError.buildProgramFailure.code) :
    ∃ notices, (program.build driver devices options).perform scene =
      (match check response.status with
        | .ok _ => .ok ()
        | .error error => .error (.failed error), ⟨world, notices⟩) := by
  unfold buildRequest at called
  refine ⟨.building program.owned.handle devices.length :: scene.notices, ?_⟩
  simp only [build, Action.perform_bind, perform_withoutNul, if_neg free, perform_use held,
    Action.perform_note, Action.perform_call, called, check]
  cases stands : CallError.ofStatus? response.status with
  | none => rfl
  | some error =>
    dsimp only
    split
    · rename_i impossible
      cases impossible
    · rename_i same
      cases same
      exact absurd (ofStatus?_eq_native_iff.mp stands) other
    · rename_i same
      cases same
      rfl

end

/-- No log is lost or cut. A failed build is reported with the whole log of the first device if
that says anything, for which it is asked once or, where 2048 bytes do not hold it, two times more;
where the driver refuses to tell it, with the bare failure. Any other answer is translated, and
nothing is asked. -/
theorem build_reports_whole_log (driver : Driver σ) (program : Program) (device : Device)
    (others devices : List Device) (options : String) (scene : Scene σ) (response : Response) (built : σ)
    (held : program.owned.handle ≠ 0) (owned : program.devices = device :: others)
    (free : '\x00' ∉ options.toList)
    (called : driver (program.buildRequest devices options) scene.world = (.ok response, built)) :
    (response.status = NativeError.buildProgramFailure.code →
      (∀ (among : σ → Prop) (bytes : Bytes), (program.logQuestion driver device).Answers among bytes →
        among built → bytes.length ≤ memoryLimit → ∃ notices, (program.build driver devices options).perform scene =
          (.error (.failed (failureOf (Text.Utf8.decode bytes.untilZero))),
            ⟨(program.logQuestion driver device).afterAll (Question.windows 2048 bytes.length) built,
              notices⟩)) ∧
      ∀ windows : List Window, (program.logQuestion driver device).Refused 2048 built windows →
        ∃ notices, (program.build driver devices options).perform scene =
          (.error (.failed (.native .buildProgramFailure)),
            ⟨(program.logQuestion driver device).afterAll windows built, notices⟩)) ∧
    (response.status ≠ NativeError.buildProgramFailure.code →
      ∃ notices, (program.build driver devices options).perform scene =
        (match check response.status with
          | .ok _ => .ok ()
          | .error error => .error (.failed error), ⟨built, notices⟩)) := by
  refine ⟨fun failed => ⟨?_, ?_⟩, perform_build_other held free called⟩
  · intro among bytes answers inside fits
    have told := (perform_buildLog held _).trans (@Question.perform_longString _ _ _ _
      ⟨built, .building program.owned.handle devices.length :: scene.notices⟩ answers inside fits 2048)
    obtain ⟨notices, reported⟩ := perform_buildFailure owned told
    exact ⟨notices, perform_build_failed held free called failed reported⟩
  · intro windows refused
    obtain ⟨error, ended⟩ := @Question.perform_longString_refused _ _
      ⟨built, .building program.owned.handle devices.length :: scene.notices⟩ _ _ refused
    have untold := (perform_buildLog held _).trans ended
    obtain ⟨notices, reported⟩ := perform_buildFailure_untold owned untold
    exact ⟨notices, perform_build_failed held free called failed reported⟩

/-- A driver that fails every build, answers all queries alike and keeps the requests. -/
def failingDriver (answer : Window → Except Fault Response) : Driver (List Request) :=
  fun request asked =>
    (match request with
      | .info _ _ window => answer window
      | _ => .ok { status := NativeError.buildProgramFailure.code }, asked ++ [request])

def failingProgram : Program := ⟨⟨1⟩, [⟨2⟩]⟩

/-- A log that does not fit into the first buffer. -/
def longLog : Bytes := 69 :: List.replicate 2100 10

def tellingDriver : Driver (List Request) :=
  failingDriver fun window => (({} : Machine).query (respond longLog window)).1

def mutedDriver : Driver (List Request) :=
  failingDriver fun _ => .ok { status := NativeError.outOfResources.code }

theorem longLog_reported :
    (∃ notices, (failingProgram.build tellingDriver [] "").perform ⟨[], []⟩ =
        (.error (.failed (.build (Text.Utf8.decode longLog.untilZero))),
          ⟨[.buildProgram 1 ⟨0, none⟩ none, .info (.build 1 2) 0x1183 ⟨2048, true, true⟩,
            .info (.build 1 2) 0x1183 ⟨0, false, true⟩, .info (.build 1 2) 0x1183 ⟨2101, true, false⟩],
            notices⟩)) ∧
      ∃ notices, (failingProgram.build mutedDriver [] "").perform ⟨[], []⟩ =
        (.error (.failed (.native .buildProgramFailure)),
          ⟨[.buildProgram 1 ⟨0, none⟩ none, .info (.build 1 2) 0x1183 ⟨2048, true, true⟩], notices⟩) := by
  constructor
  · have answers : (failingProgram.logQuestion tellingDriver ⟨2⟩).Answers (fun _ => True) longLog :=
      .of_respond (fun _ _ _ => ⟨{}, rfl⟩) fun _ _ _ => trivial
    have visible : ∃ char ∈ (Text.Utf8.decode longLog.untilZero).toList, Text.isBlank char = false := by
      refine ⟨'E', ?_, rfl⟩
      have first := @Text.Utf8.decodeFrom_one 69 (by decide) (Bytes.untilZero (List.replicate 2100 10))
      rw [Text.Utf8.decode, String.toList_ofList, longLog, Bytes.untilZero,
        List.takeWhile_cons_of_pos rfl, ← Bytes.untilZero]
      exact first ▸ List.mem_cons_self
    have size : longLog.length = 2101 := by rw [longLog, List.length_cons, List.length_replicate]
    have reports := (build_reports_whole_log tellingDriver failingProgram ⟨2⟩ [] [] "" ⟨[], []⟩ _ _
      (by decide) rfl (by decide) rfl).1 rfl
    have fits : longLog.length ≤ memoryLimit := by
      rw [size]
      decide
    have reported := reports.1 _ longLog answers trivial fits
    rw [failureOf_of_visible visible, size] at reported
    exact reported
  · have reports := (build_reports_whole_log mutedDriver failingProgram ⟨2⟩ [] [] "" ⟨[], []⟩ _ _
      (by decide) rfl (by decide) rfl).1 rfl
    exact reports.2 _ (.first rfl (by decide) (by decide))

end Program
end Offload.Host
