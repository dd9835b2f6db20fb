import Offload.Proofs.Authored
import Offload.Proofs.BuildLogs
import Offload.Proofs.Builds
import Offload.Proofs.WellFormed

/-! The life of a program. Its source decides how every build of it ends, what its build status is
from the first build on, and which kernels can be made of it. -/
namespace Offload.Simulator

/-- Calls that are only counted change nothing else. -/
theorem Machine.foldl_counted (requests : List Request) (machine : Machine) :
    requests.foldl Machine.counted machine = { machine with calls := requests.reverse ++ machine.calls } := by
  induction requests generalizing machine with
  | nil => rfl
  | cons request rest ih =>
    rw [List.foldl_cons, ih, List.reverse_cons, List.append_assoc]
    rfl

end Offload.Simulator

namespace Offload.Host
open Simulator

/-- What a build is to the runtime: its call, and the queries that follow. -/
def Program.buildCalls (program : Program) (devices : List Device) (options : String)
    (queries : List Request) : List Happening :=
  (program.buildRequest devices options :: queries).map .call

/-- A runtime where nothing was injected into what is done with programs. -/
structure Compiles (machine : Machine) : Prop where
  serving : machine.halted = false
  building : machine.injection.failure? .buildProgram = none
  informing : machine.injection.failure? (.info .build) = none
  making : machine.injection.failure? .createKernel = none
  storing : machine.injection.nulls.contains .createKernel = false

/-- A program of this source as its owner finds it. -/
structure Standing (source : String) (seen : Bool) (machine : Machine) (program : Program) : Prop where
  reachable : machine.Reachable
  held : program.owned.handle ≠ 0
  free : '\x00' ∉ source.toList
  devised : ∃ device others place, program.devices = device :: others ∧
    machine.store.deviceIndex device.id = .ok place
  stored : machine.store.program program.owned.handle =
    .ok (if seen then Simulator.Program.built { source := source } else { source := source })

private theorem free_join {pieces : List String} (free : ∀ piece ∈ pieces, '\x00' ∉ piece.toList) :
    '\x00' ∉ (String.join pieces).toList := by
  induction pieces with
  | nil => decide
  | cons piece rest ih =>
    rw [String.join_cons, String.toList_append, List.mem_append]
    rintro (first | later)
    · exact free piece List.mem_cons_self first
    · exact ih (fun other member => free other (List.mem_cons_of_mem _ member)) later

/-- A program that is still there stands as its source and the builds so far say. -/
theorem Authored.standing {pieces : List String} {later : List Happening} {machine : Machine}
    {program : Program} (authored : Authored pieces later machine program) (compiles : Compiles machine)
    (live : ∃ stored, machine.store.program program.owned.handle = .ok stored) :
    Standing (String.join pieces) (later.any (·.builds program.owned.handle)) machine program := by
  obtain ⟨few, reachable, created, onward, authored⟩ := authored
  rename_i devices context start opened scene after between
  obtain ⟨⟨device, others, place, rfl, indexed⟩, same, opening, called⟩ := Context.create_ok created
  obtain ⟨free, owned, held, response, named, answered⟩ := Context.newProgram_ok few authored
  obtain ⟨_, object, accepted, next, added⟩ := created_of_answered rfl answered (named ▸ held)
  cases Store.newProgram_joined accepted
  have before : scene.world.Reachable := onward ▸ (reachable.of_answered called).run between
  have fresh : after.world.store.objects.find? program.owned.handle =
      some (.program { source := String.join pieces }) := by
    rw [← named, next, added]
    exact before.orderly.find?_add _
  have whole := before.of_answered answered
  refine ⟨whole.run later, held, free_join free, ?_, ?_⟩
  · refine ⟨device, others, place, owned.trans same, ?_⟩
    rw [(Machine.change_run after.world later).deviceIndex_eq,
      (change_of_performed answered).deviceIndex_eq, onward,
      (Machine.change_run opened.world between).deviceIndex_eq,
      (change_of_performed called).deviceIndex_eq, indexed]
  · obtain ⟨stored, found⟩ := live
    have told := Machine.program_run whole.orderly fresh compiles.serving compiles.building
      (Store.program_ok_iff.mp found)
    cases told
    exact found

namespace Standing
variable {source : String} {seen : Bool} {machine : Machine} {program : Program}
  {devices : List Device} {options : String}

/-- Any build leaves the program as the compiler has seen its source. -/
theorem perform_building (standing : Standing source seen machine program) (compiles : Compiles machine)
    (few : devices.length < halfRange) (options : String) :
    machine.perform (program.buildRequest devices options) =
      (.ok { status :=
          if Source.isBalanced source.toList then 0 else NativeError.buildProgramFailure.code },
        { machine.counted (program.buildRequest devices options) with
          lastBuildDevices := some devices.length
          store := machine.store.replace program.owned.handle
            (.program (Simulator.Program.built { source := source })) }) := by
  have ids : (idsOf devices).length < halfRange := by rwa [idsOf, List.length_map]
  have built := Machine.perform_build compiles.serving compiles.building standing.stored
    (isConsistent_ofList ids) (if options.isEmpty then none else some options)
  have counted : (HandleList.ofList (idsOf devices)).count = devices.length := by
    rw [HandleList.ofList_of_lt ids]
    exact List.length_map ..
  rw [Program.buildRequest, built, counted]
  cases seen with
  | false => rfl
  | true => simp only [if_true, Simulator.Program.built_built, Simulator.Program.source_built]

theorem build (standing : Standing source seen machine program) (compiles : Compiles machine)
    (few : devices.length < halfRange) (options : String) :
    Standing source true (machine.after (.call (program.buildRequest devices options))) program ∧
      Compiles (machine.after (.call (program.buildRequest devices options))) := by
  have change := change_perform machine (program.buildRequest devices options)
  have built := standing.perform_building compiles few options
  obtain ⟨device, others, place, owned, located⟩ := standing.devised
  constructor
  · refine ⟨standing.reachable.after _, standing.held, standing.free,
      ⟨device, others, place, owned, (change.deviceIndex_eq device.id).trans located⟩, ?_⟩
    rw [Machine.after, built, Store.program_ok_iff]
    simp only [Store.replace, Table.find?_replace, if_true, Store.program_ok_iff.mp standing.stored,
      Option.map_some]
  · rw [Machine.after, built]
    exact ⟨compiles.serving, compiles.building, compiles.informing, compiles.making, compiles.storing⟩

theorem perform_buildLog (standing : Standing source true machine program) (compiles : Compiles machine)
    (unbalanced : Source.isBalanced source.toList = false) {device : Device} {place : Nat × Nat}
    (located : machine.store.deviceIndex device.id = .ok place) (notices : List Notice) :
    ∃ queries : List Request, (∀ query ∈ queries, query.entry = .info .build) ∧
      machine.run (queries.map .call) = { machine with calls := queries.reverse ++ machine.calls } ∧
      (program.buildLog Machine.driver device).perform ⟨machine, notices⟩ =
        (.ok (Source.bracketLog source.toList), ⟨machine.run (queries.map .call), notices⟩) := by
  have known : machine.store.information (.build program.owned.handle device.id)
      BuildParameter.log.code = .ok (textBytes (Source.bracketLog source.toList)) := by
    rw [Store.information, located]
    simp only [bind, Except.bind, standing.stored, if_true, Simulator.Program.built, unbalanced,
      Bool.false_eq_true, if_false]
    rfl
  have informs : Informs machine.store .build machine := ⟨rfl, compiles.serving, compiles.informing⟩
  have fits : (textBytes (Source.bracketLog source.toList)).length ≤ memoryLimit := by
    have short := standing.reachable.log_le standing.stored
    simp only [if_true, Simulator.Program.built, unbalanced, Bool.false_eq_true, if_false] at short
    rw [length_textBytes]
    exact Nat.le_trans (Nat.succ_le_succ short) (by decide)
  have told := @Question.perform_longString _ _ _ _ ⟨machine, notices⟩ (answers_information known)
    informs fits 2048
  rw [decode_textBytes (Source.free_bracketLog _), afterAll_eq_run] at told
  refine ⟨_, ?_, ?_, (Program.perform_buildLog standing.held _).trans told⟩
  · intro query asked
    obtain ⟨window, _, rfl⟩ := List.mem_map.mp asked
    rfl
  · rw [← afterAll_eq_run, afterAll_information known informs, Machine.foldl_counted]

theorem build_matched (standing : Standing source seen machine program) (compiles : Compiles machine)
    (few : devices.length < halfRange) (free : '\x00' ∉ options.toList) (matched : Source.isBalanced source.toList = true)
    (notices : List Notice) :
    ∃ notes, (program.build Machine.driver devices options).perform ⟨machine, notices⟩ =
      (.ok (), ⟨machine.after (.call (program.buildRequest devices options)), notes⟩) := by
  have called := standing.perform_building compiles few options
  rw [matched] at called
  obtain ⟨notes, performed⟩ := @Program.perform_build_other _ Machine.driver program ⟨machine, notices⟩
    _ _ _ _ standing.held free called (by decide)
  refine ⟨notes, performed.trans ?_⟩
  rw [Machine.after, called]
  rfl

theorem build_unmatched (standing : Standing source seen machine program) (compiles : Compiles machine)
    (few : devices.length < halfRange) (free : '\x00' ∉ options.toList)
    (unmatched : Source.isBalanced source.toList = false) (notices : List Notice) :
    ∃ (queries : List Request) (notes : List Notice), (∀ query ∈ queries, query.entry = .info .build) ∧
      Compiles (machine.run (program.buildCalls devices options queries)) ∧
      (machine.run (program.buildCalls devices options queries)).store =
        (machine.after (.call (program.buildRequest devices options))).store ∧
      (program.build Machine.driver devices options).perform ⟨machine, notices⟩ =
        (.error (.failed (.build (Source.bracketLog source.toList))),
          ⟨machine.run (program.buildCalls devices options queries), notes⟩) := by
  obtain ⟨built, compiling⟩ := standing.build compiles few options
  obtain ⟨device, others, place, owned, located⟩ := built.devised
  obtain ⟨queries, asked, counted, told⟩ := built.perform_buildLog compiling unmatched located
    (.building program.owned.handle devices.length :: notices)
  obtain ⟨notes, reported⟩ := Program.perform_buildFailure owned told
  rw [Program.failureOf_of_visible (Source.exists_visible_bracketLog _)] at reported
  have called : Machine.driver (program.buildRequest devices options) machine =
      (.ok { status := NativeError.buildProgramFailure.code },
        machine.after (.call (program.buildRequest devices options))) := by
    rw [Machine.driver, Machine.after, standing.perform_building compiles few, unmatched]
    rfl
  refine ⟨queries, notes, asked, ?_, ?_, Program.perform_build_failed standing.held free called rfl reported⟩
  all_goals rw [Program.buildCalls, List.map_cons, Machine.run, List.foldl_cons, ← Machine.run, counted]
  exact ⟨compiling.serving, compiling.building, compiling.informing, compiling.making, compiling.storing⟩

/-- A build succeeds exactly if the brackets of the source match, and fails with the log that the
runtime keeps then. -/
theorem perform_build (standing : Standing source seen machine program) (compiles : Compiles machine)
    (few : devices.length < halfRange) (free : '\x00' ∉ options.toList) (notices : List Notice) :
    ∃ (queries : List Request) (notes : List Notice) (stored : Simulator.Program),
      (∀ query ∈ queries, query.entry = .info .build) ∧
      Compiles (machine.run (program.buildCalls devices options queries)) ∧
      (machine.run (program.buildCalls devices options queries)).store.program
        program.owned.handle = .ok stored ∧
      (program.build Machine.driver devices options).perform ⟨machine, notices⟩ =
        (if Source.Matched source.toList then .ok () else .error (.failed (.build stored.log)),
          ⟨machine.run (program.buildCalls devices options queries), notes⟩) := by
  obtain ⟨built, compiling⟩ := standing.build compiles few options
  by_cases matched : Source.Matched source.toList
  · obtain ⟨notes, performed⟩ :=
      standing.build_matched compiles few free ((Source.isBalanced_iff _).mpr matched) notices
    refine ⟨[], notes, _, by simp, compiling, built.stored, ?_⟩
    rw [if_pos matched]
    exact performed
  · have unmatched := Bool.eq_false_iff.mpr (fun found => matched ((Source.isBalanced_iff _).mp found))
    obtain ⟨queries, notes, asked, going, kept, performed⟩ :=
      standing.build_unmatched compiles few free unmatched notices
    refine ⟨queries, notes, .built { source := source }, asked, going, ?_, ?_⟩
    · rw [kept]
      exact built.stored
    · rw [performed, if_neg matched, Simulator.Program.built, unmatched]
      rfl

theorem status_eq (source : String) (seen : Bool) :
    (if seen then Simulator.Program.built { source := source } else { source := source }).status =
      if seen then if Source.Matched source.toList then .success else .error else .none := by
  cases seen with
  | false => rfl
  | true =>
    simp only [if_true, Simulator.Program.built, Source.isBalanced_iff]
    split <;> rfl

private theorem perform_buildStatus (standing : Standing source seen machine program)
    (compiles : Compiles machine) {device : Device} {place : Nat × Nat}
    (located : machine.store.deviceIndex device.id = .ok place) (notices : List Notice) :
    ((program.buildStatus Machine.driver device).perform ⟨machine, notices⟩).1 =
      .ok (.listed (if seen then if Source.Matched source.toList then .success else .error
        else .none)) := by
  rw [← status_eq]
  -- The answer needs the status of what is stored only, not how the compiler came to it.
  generalize stage : (if seen then Simulator.Program.built { source := source } else { source := source }) =
    stored
  have found := standing.stored
  rw [stage] at found
  have known : machine.store.information (.build program.owned.handle device.id)
      BuildParameter.status.code = .ok (ScalarType.int32.encode (Listed.code stored.status)) := by
    rw [Store.information, located]
    simp only [bind, Except.bind, found]
    rfl
  have fits : ScalarType.int32.Holds (Listed.code stored.status) := by
    cases stored.status <;> decide
  obtain ⟨after, asked⟩ := @perform_value ⟨machine, notices⟩ (.build program.owned.handle device.id) _
    .int32 _ compiles.serving compiles.informing known (ScalarType.length_encode _ _)
  have questioned : (program.ask Machine.driver device .status (·.value .int32)).perform
      ⟨machine, notices⟩ = (.ok (Listed.code stored.status), after) := by
    rw [Program.ask, (settles_use standing.held).perform_bind, asked, ScalarType.decode_encode _ _ fits]
  rw [Program.buildStatus, Action.perform_bind, questioned]
  dsimp only
  rw [Action.perform_pure, Coded.ofRaw_code]

/-- Kernels are made of a program that was built successfully, under the names that its source
declares. -/
theorem newKernel_ok_iff (standing : Standing source seen machine program) {name : String}
    {object : Object} :
    machine.store.newKernel program.owned.handle (some name) = .ok object ↔
      (seen = true ∧ Source.Matched source.toList) ∧
        ∃ signature, (Source.kernels source.toList).find? (fun signature => signature.name == name) =
            some signature ∧
          object = .kernel ⟨signature, List.replicate signature.parameters.length none⟩ := by
  rw [Store.newKernel_ok_iff, standing.stored]
  constructor
  · rintro ⟨stored, signature, same, built, offered, rfl⟩
    cases same
    rw [status_eq] at built
    cases seen with
    | false => cases built
    | true =>
      by_cases matched : Source.Matched source.toList
      · rw [if_pos rfl, Simulator.Program.built,
          if_pos ((Source.isBalanced_iff source.toList).mpr matched)] at offered
        exact ⟨⟨rfl, matched⟩, signature, offered, rfl⟩
      · rw [if_pos rfl, if_neg matched] at built
        cases built
  · rintro ⟨⟨rfl, matched⟩, signature, offered, rfl⟩
    refine ⟨_, signature, rfl, ?_, ?_, rfl⟩
    · rw [status_eq, if_pos rfl, if_pos matched]
    · rw [if_pos rfl, Simulator.Program.built, if_pos ((Source.isBalanced_iff source.toList).mpr matched)]
      exact offered

theorem free_of_declared (standing : Standing source seen machine program) {signature : Signature}
    (declared : signature ∈ Source.kernels source.toList) : '\x00' ∉ signature.name.toList :=
  fun nul => standing.free (Source.kernels_written _ signature declared _ nul)

private theorem newKernel_accepts_iff (standing : Standing source seen machine program)
    (compiles : Compiles machine) (name : String) (notices : List Notice) :
    Accepts (program.newKernel Machine.driver name) ⟨machine, notices⟩ ↔
      (seen = true ∧ Source.Matched source.toList) ∧
        ∃ signature ∈ Source.kernels source.toList, signature.name = name := by
  constructor
  · rintro ⟨kernel, after, performed⟩
    obtain ⟨_, response, answered, handled, _⟩ := newKernel_answered performed
    obtain ⟨_, object, accepted, _⟩ := created_of_answered rfl answered handled
    obtain ⟨built, signature, offered, _⟩ := standing.newKernel_ok_iff.mp accepted
    have named := List.find?_some offered
    exact ⟨built, signature, List.mem_of_find?_eq_some offered, eq_of_beq named⟩
  · rintro ⟨built, signature, declared, rfl⟩
    have free := standing.free_of_declared declared
    obtain ⟨first, offered⟩ : ∃ first, (Source.kernels source.toList).find?
        (fun other => other.name == signature.name) = some first := by
      apply Option.isSome_iff_exists.mp
      rw [List.find?_isSome]
      exact ⟨signature, declared, beq_self_eq_true _⟩
    have accepted := standing.newKernel_ok_iff.mpr ⟨built, first, offered, rfl⟩
    have asks : Asks (program.newKernel Machine.driver signature.name) ⟨machine, notices⟩
        (.createKernel program.owned.handle (some signature.name)) :=
      .after (settles_withoutNul free) (.after (settles_use standing.held)
        (.of_obtain fun handle scene => ⟨_, _, rfl⟩))
    rw [asks.accepts_iff, serves_creation_iff rfl]
    exact ⟨⟨compiles.serving, compiles.making, compiles.storing⟩, _, accepted⟩

theorem newKernel_makes (standing : Standing source seen machine program) {name : String}
    {notices : List Notice} {kernel : Kernel} {after : Scene Machine}
    (performed : (program.newKernel Machine.driver name).perform ⟨machine, notices⟩ = (.ok kernel, after)) :
    kernel.name = name ∧ kernel.owned.handle ≠ 0 ∧ after.world.halted = false ∧
      ∃ signature, (Source.kernels source.toList).find? (fun signature => signature.name == name) =
          some signature ∧
        after.world.store.kernel kernel.owned.handle =
          .ok ⟨signature, List.replicate signature.parameters.length none⟩ := by
  obtain ⟨_, named, held, serving, stored, _, accepted, located⟩ :=
    newKernel_stored standing.reachable performed
  obtain ⟨_, signature, offered, same⟩ := standing.newKernel_ok_iff.mp accepted
  cases same
  exact ⟨named, held, serving, signature, offered, located⟩

end Standing

theorem Kernel.perform_argumentCount {kernel : Kernel} {stored : Simulator.Kernel} {scene : Scene Machine}
    (held : kernel.owned.handle ≠ 0) (serving : scene.world.halted = false)
    (allowed : scene.world.injection.failure? (.info .kernel) = none)
    (located : scene.world.store.kernel kernel.owned.handle = .ok stored) :
    ((kernel.argumentCount Machine.driver).perform scene).1 =
      .ok (stored.signature.parameters.length % LittleEndian.capacity 4 : Nat) := by
  have known : scene.world.store.information (.kernel kernel.owned.handle)
      KernelParameter.argumentCount.code = .ok (word32 stored.signature.parameters.length) := by
    rw [Store.information, located]
    rfl
  obtain ⟨after, asked⟩ := @perform_value scene (.kernel kernel.owned.handle) _ .uint32 _ serving allowed
    known (LittleEndian.length_ofNat _ _)
  rw [argumentCount, (settles_use held).perform_bind, asked]
  exact congrArg (fun count : Nat => Except.ok (count : Int)) (LittleEndian.toNat_ofNat _ _)

/-- The source decides the life of a program. Its brackets decide how every build of it ends, in
success or with the log that the runtime keeps of it, and what its build status is from the first
build on, for every device. Kernels can be made of it once it was built successfully, exactly under
the names that the source declares, each with the parameters of the first declaration of its name.
Where the source was cut makes no difference. -/
theorem program_life {pieces : List String} {later : List Happening} {machine : Machine}
    {program : Program} (authored : Authored pieces later machine program) (compiles : Compiles machine)
    (live : ∃ stored, machine.store.program program.owned.handle = .ok stored) :
    (∀ (devices : List Device) (options : String) (notices : List Notice),
      devices.length < 2 ^ 32 → '\x00' ∉ options.toList →
      ∃ (queries : List Request) (notes : List Notice) (stored : Simulator.Program),
        (∀ query ∈ queries, query.entry = .info .build) ∧
        Authored pieces (later ++ program.buildCalls devices options queries)
          (machine.run (program.buildCalls devices options queries)) program ∧
        Compiles (machine.run (program.buildCalls devices options queries)) ∧
        (machine.run (program.buildCalls devices options queries)).store.program
          program.owned.handle = .ok stored ∧
        (program.build Machine.driver devices options).perform ⟨machine, notices⟩ =
          (if Source.Matched (String.join pieces).toList then .ok ()
            else .error (.failed (.build stored.log)),
            ⟨machine.run (program.buildCalls devices options queries), notes⟩)) ∧
    (∀ (device : Device) (place : Nat × Nat) (notices : List Notice),
      machine.store.deviceIndex device.id = .ok place →
        ((program.buildStatus Machine.driver device).perform ⟨machine, notices⟩).1 =
          .ok (.listed (if later.any (·.builds program.owned.handle) then
            if Source.Matched (String.join pieces).toList then .success else .error else .none))) ∧
    (∀ (name : String) (notices : List Notice),
      (Accepts (program.newKernel Machine.driver name) ⟨machine, notices⟩ ↔
        (later.any (·.builds program.owned.handle) = true ∧
          Source.Matched (String.join pieces).toList) ∧
          ∃ signature ∈ Source.kernels (String.join pieces).toList, signature.name = name) ∧
      ∀ (kernel : Kernel) (after : Scene Machine),
        (program.newKernel Machine.driver name).perform ⟨machine, notices⟩ = (.ok kernel, after) →
          kernel.name = name ∧ ∃ signature,
            (Source.kernels (String.join pieces).toList).find? (·.name == name) = some signature ∧
            after.world.store.kernel kernel.owned.handle =
              .ok ⟨signature, List.replicate signature.parameters.length none⟩ ∧
            (after.world.injection.failure? (.info .kernel) = none →
              ((kernel.argumentCount Machine.driver).perform after).1 =
                .ok (signature.parameters.length % LittleEndian.capacity 4 : Nat))) ∧
    ∀ (cut : List String), cut ≠ [] → cut.length < 2 ^ 32 → (∀ piece ∈ cut, '\x00' ∉ piece.toList) →
      String.join cut = String.join pieces → ∀ (context : Context) (scene : Scene Machine),
        ((context.newProgram Machine.driver cut).perform scene).1 =
            ((context.newProgram Machine.driver pieces).perform scene).1 ∧
          ((context.newProgram Machine.driver cut).perform scene).2.world.store =
            ((context.newProgram Machine.driver pieces).perform scene).2.world.store := by
  have standing := authored.standing compiles live
  refine ⟨?_, ?_, ?_, ?_⟩
  · intro devices options notices few free
    obtain ⟨queries, notes, stored, asked, compiling, kept, performed⟩ :=
      standing.perform_build compiles few free notices
    exact ⟨queries, notes, stored, asked, authored.run _, compiling, kept, performed⟩
  · intro device place notices located
    exact standing.perform_buildStatus compiles located notices
  · intro name notices
    refine ⟨standing.newKernel_accepts_iff compiles name notices, fun kernel after performed => ?_⟩
    obtain ⟨named, held, serving, signature, offered, located⟩ := standing.newKernel_makes performed
    exact ⟨named, signature, offered, located,
      fun allowed => Kernel.perform_argumentCount held serving allowed located⟩
  · intro cut filled short clean same context scene
    obtain ⟨full, few, free⟩ := authored.pieces
    exact context.newProgram_alike filled full short few clean free same scene

/-- A source of one kernel in two pieces, cut within its parameters. -/
def cutSource : List String := ["__kernel void twice(int", " n)\x7b\x7d"]

@[irreducible]
def contextMaking : Except Stop Context × Scene Machine :=
  (Context.create Machine.driver [⟨deviceId 0 0⟩]).perform ⟨Machine.ofTopology 1 1, []⟩

@[irreducible]
def programMaking : Except Stop Program × Scene Machine :=
  (Context.newProgram Machine.driver ⟨⟨handleOf 1⟩, [⟨deviceId 0 0⟩]⟩ cutSource).perform contextMaking.2

/-- The runtime after the program was built twice. -/
@[irreducible]
def rebuilding : Machine :=
  programMaking.2.world.run (List.replicate 2 (.call (.buildProgram (handleOf 2) ⟨0, none⟩ none)))

private theorem makings_end :
    contextMaking.1.toOption = some ⟨⟨handleOf 1⟩, [⟨deviceId 0 0⟩]⟩ ∧
      programMaking.1.toOption = some ⟨⟨handleOf 2⟩, [⟨deviceId 0 0⟩]⟩ := by decide +kernel

private theorem rebuilding_ends :
    rebuilding.halted = false ∧ rebuilding.injection = {} ∧
      (rebuilding.store.program (handleOf 2)).toOption.isSome = true ∧
      (rebuilding.store.deviceIndex (deviceId 0 0)).toOption = some (0, 0) := by decide +kernel

theorem twice_lives :
    ∃ program, programMaking.1 = .ok program ∧
      ((program.buildStatus Machine.driver ⟨deviceId 0 0⟩).perform ⟨rebuilding, []⟩).1 =
        .ok (.listed .success) ∧
      Accepts (program.newKernel Machine.driver "twice") ⟨rebuilding, []⟩ ∧
      ¬ Accepts (program.newKernel Machine.driver "thrice") ⟨rebuilding, []⟩ := by
  obtain ⟨contextMade, programMade⟩ := makings_end
  obtain ⟨serving, injected, live, located⟩ := rebuilding_ends
  rcases creating : contextMaking with ⟨_ | context, opened⟩
  · rw [creating] at contextMade
    cases contextMade
  rcases authoring : programMaking with ⟨_ | program, after⟩
  · rw [authoring] at programMade
    cases programMade
  rw [creating] at contextMade
  rw [authoring] at programMade
  cases contextMade
  cases programMade
  have authored : Authored cutSource
      (List.replicate 2 (.call (.buildProgram (handleOf 2) ⟨0, none⟩ none))) rebuilding
      ⟨⟨handleOf 2⟩, [⟨deviceId 0 0⟩]⟩ := by
    unfold rebuilding
    rw [authoring]
    unfold programMaking at authoring
    rw [creating] at authoring
    unfold contextMaking at creating
    exact @Authored.made _ _ _ _ _ opened opened after [] _ (by decide) ⟨1, 1, [], rfl⟩ creating rfl authoring
  have compiles : Compiles rebuilding := by
    constructor <;> first | exact serving | (rw [injected]; rfl)
  obtain ⟨_, status, kernels, _⟩ := program_life authored compiles (by
    cases found : rebuilding.store.program (handleOf 2) with
    | error refusal => rw [found] at live; cases live
    | ok stored => exact ⟨stored, rfl⟩)
  have built : (List.replicate 2 (Happening.call (.buildProgram (handleOf 2) ⟨0, none⟩ none))).any
      (·.builds (handleOf 2)) = true := by decide
  have matched : Source.Matched (String.join cutSource).toList := by decide +kernel
  have listed : (Source.kernels (String.join cutSource).toList).map (·.name) = ["twice"] := by
    decide +kernel
  refine ⟨_, rfl, ?_, ?_, ?_⟩
  · cases found : rebuilding.store.deviceIndex (deviceId 0 0) with
    | error refusal => rw [found] at located; cases located
    | ok place =>
      rw [status ⟨deviceId 0 0⟩ place [] found, if_pos built, if_pos matched]
  · have offered : "twice" ∈ (Source.kernels (String.join cutSource).toList).map (·.name) := by
      rw [listed]
      exact List.mem_singleton.mpr rfl
    exact (kernels "twice" []).1.mpr ⟨⟨built, matched⟩, List.mem_map.mp offered⟩
  · intro accepts
    obtain ⟨_, signature, declared, named⟩ := (kernels "thrice" []).1.mp accepts
    have offered : "thrice" ∈ (Source.kernels (String.join cutSource).toList).map (·.name) :=
      List.mem_map.mpr ⟨signature, declared, named⟩
    rw [listed] at offered
    exact absurd (List.mem_singleton.mp offered) (by decide)

end Offload.Host
