import Offload.Proofs.Arguments
import Offload.Proofs.ParameterTypes
import Offload.Proofs.Programs

/-! Numbers for the parameters that a program declares. A kernel takes a number of the size that its
source says, as long as the name of the parameter does not hide it. -/
namespace Offload.Simulator.Source

theorem TypedParameter.suits_scalar_iff {qualifiers : List (Qualifier × Text.Gap)} {type : Builtin}
    {gap : Text.Gap} {name : Identifier} {store : Store} {value : Bytes} :
    Suits store (parameterKind (TypedParameter.scalar qualifiers type gap name).text) type.width (some value) ↔
      (TypedParameter.scalar qualifiers type gap name).Plain := by
  rw [← parameterKind_eq_iff, parameterKind_scalar, kind]
  split
  · simp [Suits]
  · simp [Suits, eq_comm]

end Offload.Simulator.Source

namespace Offload.Host
open Simulator Simulator.Source

/-- The kind of a parameter that is declared with a type and a name is that of its type exactly if the
name is plain. Where it is a scalar parameter of a kernel, numbers of the size of its type can be bound
to it, and are bound as they are, exactly if its name is plain. -/
theorem kinds_follow_types_iff_plain (parameter : TypedParameter) :
    (parameterKind parameter.text = parameter.kind ↔ parameter.Plain) ∧
    ∀ (leading : Filler) (pieces : List (Declaration × Filler)) (scene : Scene Machine) (kernel : Kernel)
      (stored : Simulator.Kernel), Compiled (String.ofList (written leading pieces)) scene.world kernel →
      scene.world.store.kernel kernel.owned.handle = .ok stored → scene.world.halted = false →
      scene.world.injection.failure? .setKernelArg = none →
      (∃ piece ∈ pieces, stored.signature = piece.1.signature) ∧
      ∀ (declaration : Declaration) (typed : List TypedParameter),
        stored.signature = declaration.signature →
        declaration.parameters = typed.map TypedParameter.parameter →
        ∀ index qualifiers type gap name, parameter = .scalar qualifiers type gap name →
          typed[index]? = some parameter →
          ∀ (host : ScalarType) (value : Int), host.width = type.width →
            let binding := kernel.bindScalar Machine.driver index host value
            (Accepts binding scene ↔ parameter.Plain) ∧
            ∀ after, binding.perform scene = (.ok (), after) →
              Binds scene.world after.world kernel.owned.handle index (host.encode value) := by
  refine ⟨parameter.parameterKind_eq_iff, ?_⟩
  intro leading pieces scene kernel stored compiled located serving allowed
  constructor
  · have declared := compiled.declared located
    rw [String.toList_ofList, kernels_read, List.mem_map] at declared
    obtain ⟨piece, listed, same⟩ := declared
    exact ⟨piece, listed, same.symm⟩
  · rintro declaration typed signed written index qualifiers type gap name rfl listed host value width binding
    have taken : stored.signature.parameters[index]? =
        some (parameterKind (TypedParameter.scalar qualifiers type gap name).text) := by
      rw [signed, Declaration.signature, written, List.map_map, List.getElem?_map, listed]
      rfl
    have bound : kernel.Binding index binding host.width _ _ := .scalar host value
    have call := bound.bindsByCall compiled.reachable located
    have reported := call.reported (by simp [allowed])
    have accepts := reported.trans (call.granted_iff serving allowed)
    rw [taken, width] at accepts
    simp only [Option.some.injEq, exists_eq_left', TypedParameter.suits_scalar_iff] at accepts
    refine ⟨accepts, ?_⟩
    intro after performed
    have binds := call.bound (reported.mp ⟨_, _, performed⟩)
    rw [performed] at binds
    exact binds

/-- Two parameters of one type. The name of the first has the word for another one. -/
def longitude : TypedParameter :=
  .scalar [] .int .space ⟨'l', "ongitude".toList, rfl, List.all_eq_true.mp rfl⟩

def place : TypedParameter := .scalar [] .int .space ⟨'p', "lace".toList, rfl, List.all_eq_true.mp rfl⟩

def locating : Declaration :=
  ⟨"locate".toList, [longitude.parameter, place.parameter], false, List.cons_ne_nil _ _,
    Text.solid_of_all rfl, by decide⟩

def atlasPieces : List (Declaration × Filler) := [(locating, ⟨" \x7b \x7d".toList, by decide⟩)]

def atlasSource : String := String.ofList (written ⟨[], by decide⟩ atlasPieces)

/-- A runtime where the program that declares them was built. -/
@[irreducible]
def atlas : Machine :=
  (Machine.ofTopology 1 1).run [.call (.createContext ⟨1, some [deviceId 0 0]⟩),
    .call (.createProgram (handleOf 1) 1 (some [some atlasSource]) false),
    .call (.buildProgram (handleOf 2) ⟨0, none⟩ none)]

/-- The kernel is made. -/
@[irreducible]
def locatingMade : Except Stop Kernel × Scene Machine :=
  (Program.newKernel Machine.driver ⟨⟨handleOf 2⟩, [⟨deviceId 0 0⟩]⟩ "locate").perform ⟨atlas, []⟩

private theorem locating_ends :
    atlas.store.objects.find? (handleOf 2) = some (.program ⟨atlasSource, .success, "",
      [⟨"locate", [.scalar 8, .scalar 4]⟩]⟩) ∧
      locatingMade.1.toOption = some ⟨⟨handleOf 3⟩, "locate"⟩ ∧
      locatingMade.2.world.halted = false ∧ locatingMade.2.world.injection = {} ∧
      locatingMade.2.world.store.objects.find? (handleOf 3) = some (.kernel
        ⟨⟨"locate", [.scalar 8, .scalar 4]⟩, [none, none]⟩) := by decide +kernel

theorem compiled_locating : Compiled atlasSource locatingMade.2.world ⟨⟨handleOf 3⟩, "locate"⟩ := by
  obtain ⟨built, made, _⟩ := locating_ends
  have reachable : atlas.Reachable := by
    unfold atlas
    exact ⟨1, 1, _, rfl⟩
  rcases crafted : locatingMade with ⟨_ | kernel, after⟩
  · rw [crafted] at made
    cases made
  · rw [crafted] at made
    cases made
    unfold locatingMade at crafted
    exact .made reachable (Store.program_ok_iff.mpr built) rfl crafted []

/-- The second parameter takes a number of four bytes, as its type says. -/
theorem place_bound :
    place.Plain ∧ ∃ after,
      (Kernel.bindScalar Machine.driver ⟨⟨handleOf 3⟩, "locate"⟩ 1 .int32 5).perform locatingMade.2 =
        (.ok (), after) ∧
      Binds locatingMade.2.world after.world (handleOf 3) 1 [5, 0, 0, 0] := by
  obtain ⟨_, _, serving, free, stored⟩ := locating_ends
  have plain : place.Plain := by
    simp only [TypedParameter.Plain, place, ← Text.occursIn_iff]
    decide
  obtain ⟨_, binding⟩ := (kinds_follow_types_iff_plain place).2 _ atlasPieces locatingMade.2 _ _
    compiled_locating (Store.kernel_ok_iff.mpr stored) serving (by rw [free]; rfl)
  obtain ⟨accepts, binds⟩ := binding locating [longitude, place] (by decide +kernel) rfl 1 _ _ _ _ rfl rfl
    .int32 5 rfl
  obtain ⟨_, after, performed⟩ := accepts.mpr plain
  exact ⟨plain, after, performed, binds after performed⟩

/-- The first parameter has a type of four bytes, too, but is taken for one of eight, so that a number
of four bytes is refused. -/
theorem longitude_mistaken :
    (longitude.text = "int longitude".toList ∧ longitude.kind = .scalar 4 ∧
      parameterKind longitude.text = .scalar 8) ∧
    Compiled atlasSource locatingMade.2.world ⟨⟨handleOf 3⟩, "locate"⟩ ∧
    ((Kernel.bindScalar Machine.driver ⟨⟨handleOf 3⟩, "locate"⟩ 0 .int32 5).perform locatingMade.2).1 =
      .error (.failed (.native .invalidArgSize)) := by
  refine ⟨by decide +kernel, compiled_locating, ?_⟩
  decide +kernel

end Offload.Host
