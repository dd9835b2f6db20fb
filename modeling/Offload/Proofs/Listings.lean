import Offload.Host.Context
import Offload.Proofs.Allocations

/-! Lists of platforms, devices and image formats. The host shows what the driver stored, up to the
number that was reported and up to the end of the buffer. The simulated runtime fills the buffer in
order, with ids that tell where they come from. -/
namespace Offload.Simulator

/-- Ids of different devices differ. -/
theorem deviceId_inj {platform other index place : Nat} (inside : index < 0x1000)
    (insideToo : place < 0x1000) :
    deviceId platform index = deviceId other place ↔ platform = other ∧ index = place := by
  unfold deviceId
  omega

namespace Store
variable {store : Store}

/-- A device id is read back as the platform and the place that it was made of, and no other word
of 64 bits is taken for one. -/
theorem deviceIndex_iff {id platform index : Nat} (few : store.platforms < halfRange)
    (bounded : store.devices ≤ 0x1000) (word : id < fullRange) :
    store.deviceIndex id = .ok (platform, index) ↔
      id = deviceId platform index ∧ platform < store.platforms ∧ index < store.devices := by
  unfold halfRange at few
  unfold fullRange at word
  unfold deviceIndex wrappingSub fullRange deviceId
  dsimp only
  split
  · rw [Except.ok.injEq, Prod.mk.injEq]
    omega
  · simp only [refuse, reduceCtorEq, false_iff]
    omega

/-- The first platform is meant where none is named. -/
theorem platformIndex_chosen (few : store.platforms < halfRange) {chosen : Option Nat}
    (present : chosen.getD 0 < store.platforms) :
    store.platformIndex ((chosen.map platformId).getD 0) = .ok (chosen.getD 0) := by
  cases chosen with
  | none => exact if_pos present
  | some index =>
    unfold halfRange at few
    rw [Option.getD_some] at present
    have offset : wrappingSub (platformId index) 0x1000 = index := by
      simp only [wrappingSub, platformId, fullRange]
      omega
    have named : platformId index ≠ 0 := by
      unfold platformId
      omega
    simp only [Option.map_some, Option.getD_some, platformIndex, if_neg named, offset,
      if_pos present]

/-- Every device is a default device and a graphics processor, and nothing else. -/
theorem intersectsTypes_iff (types : UInt64) :
    listDevices.intersectsTypes types = true ↔ types &&& 0x4 ≠ 0 ∨ types &&& 0x1 ≠ 0 := by
  have parts : types &&& 0x5 = (types &&& 0x4) ||| (types &&& 0x1) := by
    rw [UInt64.and_comm types, UInt64.and_comm types, UInt64.and_comm types, ← or_and_distrib]
    rfl
  rw [listDevices.intersectsTypes, bne_iff_ne, parts, Ne, UInt64.or_eq_zero_iff]
  exact Decidable.not_and_iff_or_not

/-- Platforms are stored in order, and their number is reported. -/
theorem listPlatforms_all (few : store.platforms < halfRange) {entries : Nat} (room : entries ≠ 0) :
    store.listPlatforms entries true true =
      if store.platforms = 0 then .error (.status (-1001))
      else .ok { ids := (List.range (min store.platforms entries)).map platformId
                 reported := some store.platforms } := by
  have asked : (!(entries == 0 && true) && (true || true)) = true := by simp [room]
  rw [listPlatforms, asked, Nat.mod_eq_of_lt few]
  rfl

/-- Devices of a platform are stored in order, and their number is reported. -/
theorem listDevices_all {platform index entries : Nat} (found : store.platformIndex platform = .ok index)
    (bounded : store.devices < halfRange) (room : entries ≠ 0) (types : UInt64) :
    store.listDevices platform types entries true true =
      if (types &&& 0x4 ≠ 0 ∨ types &&& 0x1 ≠ 0) ∧ 0 < store.devices then
        .ok { ids := (List.range (min store.devices entries)).map (deviceId index)
              reported := some store.devices }
      else refuse .deviceNotFound := by
  have asked : (!(entries == 0 && true) && (true || true)) = true := by simp [room]
  have meets : (listDevices.intersectsTypes types && store.devices != 0) = true ↔
      (types &&& 0x4 ≠ 0 ∨ types &&& 0x1 ≠ 0) ∧ 0 < store.devices := by
    rw [Bool.and_eq_true, intersectsTypes_iff, bne_iff_ne, Nat.pos_iff_ne_zero]
  rw [listDevices, found, asked, Nat.mod_eq_of_lt bounded]
  by_cases offered : (types &&& 0x4 ≠ 0 ∨ types &&& 0x1 ≠ 0) ∧ 0 < store.devices
  · rw [if_pos offered, meets.mpr offered]
    rfl
  · rw [if_neg offered, Bool.eq_false_iff.mpr (mt meets.mp offered)]
    rfl

end Store

/-- Whether a call is one of those that find platforms and devices. -/
def surveys : EntryPoint → Bool
  | .platformIds | .deviceIds | .info .device => true
  | _ => false

/-- A runtime with so many platforms and so many devices on each, in which nothing is injected where
they are looked for. -/
structure Topology (platforms devices : Nat) (machine : Machine) : Prop where
  platforms : machine.store.platforms = platforms
  devices : machine.store.devices = devices
  serving : machine.halted = false
  allowed : ∀ entry, surveys entry = true → machine.injection.failure? entry = none

private theorem Topology.ofTopology (platforms devices : Nat) :
    Topology platforms devices (.ofTopology platforms devices) :=
  ⟨rfl, rfl, rfl, fun _ _ => rfl⟩

namespace Topology
variable {platforms devices : Nat} {machine : Machine}

theorem counted (topology : Topology platforms devices machine) (request : Request) :
    Topology platforms devices (machine.counted request) :=
  ⟨topology.platforms, topology.devices, topology.serving, topology.allowed⟩

theorem perform_query (topology : Topology platforms devices machine) {request : Request}
    {outcome : Except Refusal Response} (surveying : surveys request.entry = true)
    (service : machine.store.service request = .query outcome) :
    Machine.driver request machine = (machine.counted request).query outcome := by
  have same : (machine.counted request).store = machine.store := rfl
  rw [Machine.driver, Machine.perform_of_serving topology.serving (topology.allowed _ surveying),
    Machine.serve_eq, same, service]

end Topology
end Offload.Simulator

namespace Offload.Host
open Simulator

section
variable {α : Type} {limit count : Nat} {blank : α} {listed : List α}

private theorem getElem?_visible {place : Nat} (inside : place < min count limit) :
    (visible limit count blank listed)[place]? = some (listed.getD place blank) := by
  rw [visible, List.getElem?_take, if_pos inside, List.getElem?_append]
  split
  · rename_i stored
    rw [List.getD_eq_getElem?_getD, List.getElem?_eq_getElem stored, Option.getD_some]
  · rename_i missing
    have room : place - listed.length < limit := by omega
    rw [List.getElem?_replicate, if_pos room, List.getD_eq_getElem?_getD,
      List.getElem?_eq_none (Nat.le_of_not_lt missing), Option.getD_none]

/-- A list that was stored as far as it is visible is shown as it is. -/
theorem visible_of_length (whole : listed.length = min count limit) :
    visible limit count blank listed = listed := by
  rw [visible, ← whole, List.take_left]

/-- Entries that were stored in order are shown in order. -/
theorem map_visible_range {β : Type} (limit count : Nat) (blank : α) (entry : Nat → α) (make : α → β) :
    (visible limit count blank ((List.range (min count limit)).map entry)).map make =
      (List.range (min count limit)).map fun place => make (entry place) := by
  rw [visible_of_length (by rw [List.length_map, List.length_range]), List.map_map]
  rfl

end

section
variable {σ : Type} (driver : Driver σ) (scene : Scene σ)

/-- A listing takes one call; at most a notice that it was cut is added to it. -/
theorem perform_listing {α : Type} (request : Request) (limit : Nat) (hidden : Nat → Notice)
    (entries : Response → List α) :
    ∃ notices, Action.perform (do
        let response ← Action.demand driver request
        let count := response.reported.getD 0
        if count > limit then Action.note (hidden count)
        pure (entries response)) scene =
      ((heard (driver request scene.world).1).map entries,
        ⟨(driver request scene.world).2, notices⟩) := by
  rw [Action.perform_bind, perform_demand_heard]
  cases heard (driver request scene.world).1 with
  | error stop => exact ⟨scene.notices, rfl⟩
  | ok response =>
    dsimp only
    split
    · exact ⟨_, rfl⟩
    · exact ⟨_, rfl⟩

theorem Platform.perform_list :
    let answer := driver (.platformIds platformLimit true true) scene.world
    ∃ notices, (Platform.list driver).perform scene =
      ((heard answer.1).map fun response =>
          (visible platformLimit (response.reported.getD 0) 0 response.ids).map Platform.mk,
        ⟨answer.2, notices⟩) :=
  perform_listing driver scene (.platformIds platformLimit true true) platformLimit .platformsHidden _

theorem Device.perform_list (platform : Option Platform) (types : UInt64) :
    let answer := driver (.deviceIds ((platform.map Platform.id).getD 0) types deviceLimit true true)
      scene.world
    ∃ notices, (Device.list driver platform types).perform scene =
      ((heard answer.1).map fun response =>
          (visible deviceLimit (response.reported.getD 0) 0 response.ids).map Device.mk,
        ⟨answer.2, notices⟩) := by
  cases platform with
  | none =>
    exact perform_listing driver scene (.deviceIds 0 types deviceLimit true true) deviceLimit
      .devicesHidden _
  | some platform =>
    exact perform_listing driver scene (.deviceIds platform.id types deviceLimit true true)
      deviceLimit .devicesHidden _

private theorem Context.perform_imageFormats {context : Context} (held : context.owned.handle ≠ 0)
    (flags : UInt64) (kind : Coded MemoryKind) :
    let answer := driver (.imageFormats context.owned.handle flags kind.raw formatLimit true true)
      scene.world
    (context.imageFormats driver flags kind).perform scene =
      ((heard answer.1).map fun response =>
          (visible formatLimit (response.reported.getD 0) {} response.formats).map ImageFormat.ofRaw,
        { scene with world := answer.2 }) := by
  rw [Context.imageFormats, Owned.use, if_neg held, Action.perform_bind, Action.perform_pure]
  dsimp only
  rw [Action.perform_bind, perform_demand_heard]
  cases heard (driver _ scene.world).1 with
  | error stop => rfl
  | ok response => rfl

end

/-- The list shows the first entries of a buffer. -/
def ShowsFirst {α : Type} (amount : Nat) (entry : Nat → α) (result : Except Stop (List α)) : Prop :=
  ∃ listed, result = .ok listed ∧ listed.length = amount ∧
    ∀ place < amount, listed[place]? = some (entry place)

/-- A driver that succeeds at a call and reports so many entries. -/
structure Enumerates {σ : Type} (driver : Driver σ) (request : Request) (state : σ)
    (response : Response) (count : Nat) : Prop where
  answered : (driver request state).1 = .ok response
  success : response.status = 0
  reported : response.reported = some count

private theorem Enumerates.showsFirst {α β σ : Type} {driver : Driver σ} {request : Request} {state : σ}
    {response : Response} {count : Nat} (enumerates : Enumerates driver request state response count)
    (limit : Nat) (blank : α) (stored : Response → List α) (make : α → β) :
    ShowsFirst (min count limit) (fun place => make ((stored response).getD place blank))
      ((heard (driver request state).1).map fun response =>
        (visible limit (response.reported.getD 0) blank (stored response)).map make) := by
  rw [enumerates.answered, heard_success enumerates.success]
  dsimp only [Except.map]
  rw [enumerates.reported, Option.getD_some]
  refine ⟨_, rfl, ?_, ?_⟩
  · rw [List.length_map, length_visible]
  · intro place inside
    rw [List.getElem?_map, getElem?_visible inside, Option.map_some]

section
variable {platforms devices : Nat} {machine : Machine}

private theorem heard_listPlatforms (few : platforms < halfRange)
    (topology : Topology platforms devices machine) :
    let request := Request.platformIds platformLimit true true
    heard (Machine.driver request machine).1 =
        (if platforms = 0 then .error (.failed (.other (-1001)))
          else .ok { ids := (List.range (min platforms platformLimit)).map platformId
                     reported := some platforms }) ∧
      (Machine.driver request machine).2 = machine.counted request := by
  intro request
  have answered : Machine.driver request machine = _ := topology.perform_query rfl rfl
  rw [← topology.platforms] at few ⊢
  rw [answered, Store.listPlatforms_all few (by decide)]
  split
  · exact ⟨rfl, rfl⟩
  · exact ⟨rfl, rfl⟩

private theorem heard_listDevices (few : platforms < halfRange) (bounded : devices ≤ 0x1000)
    (topology : Topology platforms devices machine) {chosen : Option Nat}
    (present : chosen.getD 0 < platforms) (types : UInt64) :
    let request := Request.deviceIds ((chosen.map platformId).getD 0) types deviceLimit true true
    heard (Machine.driver request machine).1 =
        (if (types &&& 0x4 ≠ 0 ∨ types &&& 0x1 ≠ 0) ∧ 0 < devices then
            .ok { ids := (List.range (min devices deviceLimit)).map (deviceId (chosen.getD 0))
                  reported := some devices }
          else .error (.failed (.native .deviceNotFound))) ∧
      (Machine.driver request machine).2 = machine.counted request := by
  intro request
  have answered : Machine.driver request machine = _ := topology.perform_query rfl rfl
  rw [← topology.platforms] at few present
  rw [← topology.devices] at bounded ⊢
  have small : machine.store.devices < halfRange := Nat.lt_of_le_of_lt bounded (by decide)
  rw [answered, Store.listDevices_all (Store.platformIndex_chosen few present) small (by decide)]
  split
  · exact ⟨rfl, rfl⟩
  · exact ⟨rfl, rfl⟩

/-- A device names the platform that its id was made of. -/
theorem perform_devicePlatform (few : platforms < halfRange) (bounded : devices ≤ 0x1000)
    {scene : Scene Machine} (topology : Topology platforms devices scene.world) {platform index : Nat}
    (inside : platform < platforms) (insideToo : index < devices) :
    ∃ after, Topology platforms devices after.world ∧
      (Device.property Machine.driver ⟨deviceId platform index⟩ .platform).perform scene =
        (.ok (.platform ⟨platformId platform⟩), after) := by
  rw [← topology.platforms] at few inside
  rw [← topology.devices] at bounded insideToo
  have word : deviceId platform index < fullRange := by
    unfold halfRange at few
    unfold deviceId fullRange
    omega
  have found := (Store.deviceIndex_iff few bounded word).mpr ⟨rfl, inside, insideToo⟩
  have known : scene.world.store.information (.device (deviceId platform index))
      (Listed.code DeviceParameter.platform) = .ok (word64 (platformId platform)) := by
    rw [Store.information, found]
    rfl
  have informs : Informs scene.world.store .device scene.world :=
    ⟨rfl, topology.serving, topology.allowed _ rfl⟩
  have fits : platformId platform < LittleEndian.capacity 8 := by
    unfold halfRange at few
    simp only [platformId, LittleEndian.capacity]
    omega
  have asked := @Question.perform_value _ _ _ _ scene (answers_information known) informs .uint64
    (LittleEndian.length_ofNat _ _)
  rw [afterAll_information known informs, decode_word64 fits] at asked
  let request := Request.info (.device (deviceId platform index))
    (Listed.code DeviceParameter.platform) ⟨8, true, false⟩
  have numbered : (Device.number Machine.driver ⟨deviceId platform index⟩ .platform .uint64).perform
      scene = (.ok (platformId platform), { scene with world := scene.world.counted request }) := asked
  refine ⟨{ scene with world := scene.world.counted request }, topology.counted request,
    (Action.perform_bind _ _ _).trans ?_⟩
  rw [numbered]
  rfl

end

/-- What is found in a runtime with so many platforms and so many devices on each. The topology is
still the same behind every call, so one survey can follow another. -/
structure Surveyed (platforms devices : Nat) (scene : Scene Machine) : Prop where
  platforms_listed : ∃ after, Topology platforms devices after.world ∧
    (Platform.list Machine.driver).perform scene =
      (if platforms = 0 then .error (.failed (.other (-1001)))
        else .ok ((List.range (min platforms 32)).map fun index => ⟨0x1000 + index⟩), after)
  /-- The first platform is meant where none is chosen. -/
  devices_listed : ∀ chosen : Option Nat, chosen.getD 0 < platforms → ∀ types : UInt64,
    ∃ after, Topology platforms devices after.world ∧
      (Device.list Machine.driver (chosen.map fun index => ⟨0x1000 + index⟩) types).perform scene =
        (if (types &&& 0x4 ≠ 0 ∨ types &&& 0x1 ≠ 0) ∧ 0 < devices then
            .ok ((List.range (min devices 64)).map fun index =>
              ⟨0x100000 + 0x1000 * chosen.getD 0 + index⟩)
          else .error (.failed (.native .deviceNotFound)), after)
  ids_inverted : ∀ id < fullRange, ∀ platform index,
    scene.world.store.deviceIndex id = .ok (platform, index) ↔
      id = 0x100000 + 0x1000 * platform + index ∧ platform < platforms ∧ index < devices
  ids_distinct : ∀ platform index other place, index < devices → place < devices →
    deviceId platform index = deviceId other place → platform = other ∧ index = place
  /-- This is so for the listed devices and for those that did not fit the list. -/
  platform_named : ∀ platform < platforms, ∀ index < devices,
    ∃ after, Topology platforms devices after.world ∧
      (Device.property Machine.driver ⟨0x100000 + 0x1000 * platform + index⟩ .platform).perform scene =
        (.ok (.platform ⟨0x1000 + platform⟩), after)

theorem surveyed {platforms devices : Nat} {scene : Scene Machine} (few : platforms < halfRange)
    (bounded : devices ≤ 0x1000) (topology : Topology platforms devices scene.world) :
    Surveyed platforms devices scene where
  platforms_listed := by
    obtain ⟨notices, listed⟩ := Platform.perform_list Machine.driver scene
    obtain ⟨answered, counted⟩ := heard_listPlatforms few topology
    rw [answered, counted] at listed
    let request := Request.platformIds platformLimit true true
    refine ⟨⟨scene.world.counted request, notices⟩, topology.counted request, listed.trans ?_⟩
    split
    · rfl
    · exact congrArg (fun shown => (Except.ok shown, _))
        (map_visible_range platformLimit platforms 0 platformId Platform.mk)
  devices_listed := by
    intro chosen present types
    obtain ⟨notices, listed⟩ := Device.perform_list Machine.driver scene
      (chosen.map fun index => ⟨platformId index⟩) types
    obtain ⟨answered, counted⟩ := heard_listDevices few bounded topology present types
    have named : (chosen.map fun index => Platform.mk (platformId index)).map Platform.id =
        chosen.map platformId := Option.map_map _ _ _
    rw [named, answered, counted] at listed
    let request := Request.deviceIds ((chosen.map platformId).getD 0) types deviceLimit true true
    refine ⟨⟨scene.world.counted request, notices⟩, topology.counted request, listed.trans ?_⟩
    split
    · exact congrArg (fun shown => (Except.ok shown, _))
        (map_visible_range deviceLimit devices 0 (deviceId (chosen.getD 0)) Device.mk)
    · rfl
  ids_inverted := by
    intro id word platform index
    rw [← topology.platforms] at few ⊢
    rw [← topology.devices] at bounded ⊢
    exact Store.deviceIndex_iff few bounded word
  ids_distinct := by
    intro platform index other place inside insideToo same
    exact (deviceId_inj (by omega) (by omega)).mp same
  platform_named := by
    intro platform inside index insideToo
    exact perform_devicePlatform few bounded topology inside insideToo

/-- Lists are cut at the end of their buffers, and hold the first entries that were stored, whatever
number a driver reports. In the simulated runtime they are in order, and every id tells where in the
topology it belongs. -/
theorem listings_exact :
    (∀ (platforms devices : Nat) (scene : Scene Machine), platforms < halfRange → devices ≤ 0x1000 →
      Topology platforms devices scene.world → Surveyed platforms devices scene) ∧
    ∀ (σ : Type) (driver : Driver σ) (scene : Scene σ) (response : Response) (count : Nat),
      (Enumerates driver (.platformIds 32 true true) scene.world response count →
        ShowsFirst (min count 32) (fun place => ⟨response.ids.getD place 0⟩)
          ((Platform.list driver).perform scene).1) ∧
      (∀ (platform : Option Platform) (types : UInt64),
        Enumerates driver (.deviceIds ((platform.map Platform.id).getD 0) types 64 true true)
          scene.world response count →
        ShowsFirst (min count 64) (fun place => ⟨response.ids.getD place 0⟩)
          ((Device.list driver platform types).perform scene).1) ∧
      ∀ (context : Context) (flags : UInt64) (kind : Coded MemoryKind), context.owned.handle ≠ 0 →
        Enumerates driver (.imageFormats context.owned.handle flags kind.raw 256 true true)
          scene.world response count →
        ShowsFirst (min count 256) (fun place => .ofRaw (response.formats.getD place {}))
          ((context.imageFormats driver flags kind).perform scene).1 := by
  refine ⟨fun platforms devices scene few bounded topology => surveyed few bounded topology, ?_⟩
  intro σ driver scene response count
  refine ⟨?_, ?_, ?_⟩
  · intro enumerates
    obtain ⟨notices, listed⟩ := Platform.perform_list driver scene
    rw [listed]
    exact enumerates.showsFirst platformLimit 0 Response.ids Platform.mk
  · intro platform types enumerates
    obtain ⟨notices, listed⟩ := Device.perform_list driver scene platform types
    rw [listed]
    exact enumerates.showsFirst deviceLimit 0 Response.ids Device.mk
  · intro context flags kind held enumerates
    rw [Context.perform_imageFormats driver scene held]
    exact enumerates.showsFirst formatLimit {} Response.formats ImageFormat.ofRaw

/-- A driver that reports more than it stores, and more than any list has room for. -/
def boastful : Driver Unit := fun _ state =>
  (.ok { ids := [7, 9], formats := [⟨0x10B0, 0x10D0⟩], reported := some 300 }, state)

theorem long_listings_cut :
    Surveyed 40 70 ⟨.ofTopology 40 70, []⟩ ∧
    ShowsFirst 32 (fun place => ⟨[7, 9].getD place 0⟩) ((Platform.list boastful).perform ⟨(), []⟩).1 ∧
    ShowsFirst 64 (fun place => ⟨[7, 9].getD place 0⟩)
      ((Device.list boastful none 0).perform ⟨(), []⟩).1 ∧
    ShowsFirst 256 (fun place => .ofRaw ([⟨0x10B0, 0x10D0⟩].getD place {}))
      ((Context.imageFormats boastful ⟨⟨1⟩, []⟩ 0 (.listed .image2D)).perform ⟨(), []⟩).1 := by
  obtain ⟨simulated, driven⟩ := listings_exact
  obtain ⟨platforms, devices, formats⟩ := driven Unit boastful ⟨(), []⟩ _ 300
  refine ⟨simulated 40 70 _ (by decide) (by decide) (.ofTopology 40 70), ?_, ?_, ?_⟩
  · exact platforms ⟨rfl, rfl, rfl⟩
  · exact devices none 0 ⟨rfl, rfl, rfl⟩
  · exact formats ⟨⟨1⟩, []⟩ 0 (.listed .image2D) (by decide) ⟨rfl, rfl, rfl⟩

end Offload.Host
