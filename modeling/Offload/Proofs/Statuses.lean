import Offload.CallError

/-! The statuses of native calls and the errors that they stand for. Every status but success has one
error, which keeps it, and no two statuses share an error. An error comes back from its status unless
that status means something else: success, or a listed error of its own. -/
namespace Offload

namespace NativeError

/-- The codes run down from -1, and again from -30. -/
theorem codes_all : all.map code =
    (List.range 19).map (fun place : Nat => -1 - (place : Int)) ++
      (List.range 39).map fun place : Nat => -30 - (place : Int) := by decide

theorem code_ne_zero (error : NativeError) : error.code ≠ 0 := by
  cases error <;> decide

end NativeError

/-- A status with a listed error. -/
def Meaningful (status : Int) : Prop := ∃ error : NativeError, error.code = status

private theorem meaningful_iff {status : Int} :
    Meaningful status ↔ (-19 ≤ status ∧ status ≤ -1) ∨ (-68 ≤ status ∧ status ≤ -30) := by
  have listed : Meaningful status ↔ status ∈ NativeError.all.map NativeError.code := by
    rw [List.mem_map]
    constructor
    · rintro ⟨error, coded⟩
      exact ⟨error, Listed.mem_members error, coded⟩
    · rintro ⟨error, _, coded⟩
      exact ⟨error, coded⟩
  rw [listed, NativeError.codes_all, List.mem_append, List.mem_map, List.mem_map]
  constructor
  · rintro (⟨place, inside, rfl⟩ | ⟨place, inside, rfl⟩)
    all_goals
      have := List.mem_range.mp inside
      omega
  · rintro (early | late)
    · exact Or.inl ⟨(-1 - status).toNat, List.mem_range.mpr (by omega), by omega⟩
    · exact Or.inr ⟨(-30 - status).toNat, List.mem_range.mpr (by omega), by omega⟩

section
variable {status : Int} {error : CallError}

theorem ofStatus?_code (error : NativeError) : CallError.ofStatus? error.code = some (.native error) := by
  have listed : (Listed.ofCode? error.code : Option NativeError) = some error := Listed.ofCode?_code error
  rw [CallError.ofStatus?, if_neg error.code_ne_zero, listed]

theorem ofStatus?_of_meaningless (failed : status ≠ 0) (meaningless : ¬ Meaningful status) :
    CallError.ofStatus? status = some (.other status) := by
  rw [CallError.ofStatus?, if_neg failed]
  cases listed : (Listed.ofCode? status : Option NativeError) with
  | none => rfl
  | some error => exact absurd ⟨error, Listed.code_of_ofCode? listed⟩ meaningless

theorem ofStatus?_eq_none_iff : CallError.ofStatus? status = none ↔ status = 0 := by
  constructor
  · intro silent
    by_cases meaningful : Meaningful status
    · obtain ⟨error, rfl⟩ := meaningful
      rw [ofStatus?_code] at silent
      cases silent
    · refine Decidable.byContradiction fun failed => ?_
      rw [ofStatus?_of_meaningless failed meaningful] at silent
      cases silent
  · rintro rfl
    rfl

/-- What a status can stand for: a listed error, or itself where it has none. -/
theorem ofStatus?_eq_some_iff : CallError.ofStatus? status = some error ↔
    (∃ native : NativeError, native.code = status ∧ error = .native native) ∨
      (status ≠ 0 ∧ ¬ Meaningful status ∧ error = .other status) := by
  constructor
  · intro stands
    by_cases meaningful : Meaningful status
    · obtain ⟨native, rfl⟩ := meaningful
      rw [ofStatus?_code] at stands
      exact Or.inl ⟨native, rfl, (Option.some.inj stands).symm⟩
    · have failed : status ≠ 0 := by
        rintro rfl
        cases stands
      rw [ofStatus?_of_meaningless failed meaningful] at stands
      exact Or.inr ⟨failed, meaningful, (Option.some.inj stands).symm⟩
  · rintro (⟨native, rfl, rfl⟩ | ⟨failed, meaningless, rfl⟩)
    · exact ofStatus?_code native
    · exact ofStatus?_of_meaningless failed meaningless

/-- A listed error is reported for its own code, and for no other status. -/
theorem ofStatus?_eq_native_iff {error : NativeError} :
    CallError.ofStatus? status = some (.native error) ↔ status = error.code := by
  simp only [ofStatus?_eq_some_iff, CallError.native.injEq, reduceCtorEq, and_false, or_false]
  constructor
  · rintro ⟨native, rfl, rfl⟩
    rfl
  · rintro rfl
    exact ⟨error, rfl, rfl⟩

theorem status?_of_ofStatus? (stands : CallError.ofStatus? status = some error) :
    error.status? = some status := by
  rcases ofStatus?_eq_some_iff.mp stands with ⟨native, rfl, rfl⟩ | ⟨_, _, rfl⟩
  · rfl
  · rfl

private theorem ofStatus?_injective : Function.Injective CallError.ofStatus? := by
  intro first second same
  cases stands : CallError.ofStatus? first with
  | none => exact (ofStatus?_eq_none_iff.mp stands).trans (ofStatus?_eq_none_iff.mp (same ▸ stands)).symm
  | some error =>
    have kept := status?_of_ofStatus? stands
    rw [same] at stands
    exact Option.some.inj (kept.symm.trans (status?_of_ofStatus? stands))

/-- An error that its status does not lead back to: one with the log of a failed build, or a status
taken as it is though it means something else. -/
def CallError.Estranged : CallError → Prop
  | .build _ => True
  | .other status => status = 0 ∨ Meaningful status
  | _ => False

private theorem ofStatus?_status_iff (kept : error.status? = some status) :
    CallError.ofStatus? status = some error ↔ ¬ error.Estranged := by
  rw [ofStatus?_eq_some_iff]
  cases error with
  | native native =>
    cases kept
    exact iff_of_true (Or.inl ⟨native, rfl, rfl⟩) id
  | other code =>
    cases kept
    simp only [reduceCtorEq, and_false, exists_false, false_or, and_true, CallError.Estranged, not_or]
  | build log =>
    simp only [reduceCtorEq, and_false, exists_false, or_self, CallError.Estranged, not_true_eq_false]
  | nullHandle | libraryNotFound | interiorNul | noDevices => cases kept

theorem check_eq_error_iff : check status = .error error ↔ CallError.ofStatus? status = some error := by
  unfold check
  cases CallError.ofStatus? status <;> simp

theorem check_ok_iff : check status = .ok () ↔ status = 0 := by
  rw [← ofStatus?_eq_none_iff]
  unfold check
  cases CallError.ofStatus? status <;> simp

theorem checkHandle_ok_iff {handle accepted : Nat} :
    checkHandle status handle = .ok accepted ↔ (status = 0 ∧ handle ≠ 0) ∧ handle = accepted := by
  rw [← ofStatus?_eq_none_iff]
  unfold checkHandle
  cases CallError.ofStatus? status with
  | none => by_cases null : handle = 0 <;> simp [null]
  | some error => simp

/-- Otherwise the status is what is reported, or else that there is no object. -/
theorem checkHandle_error_iff {handle : Nat} :
    checkHandle status handle = .error error ↔ CallError.ofStatus? status = some error ∨
      (status = 0 ∧ handle = 0 ∧ error = .nullHandle) := by
  rw [← ofStatus?_eq_none_iff]
  unfold checkHandle
  cases CallError.ofStatus? status with
  | none => by_cases null : handle = 0 <;> simp [null, eq_comm]
  | some other => simp

end

/-- Statuses and errors are translated into each other without loss. There are 58 listed codes; each
status is success or has one error, listed or as it is, and keeps to it; an error comes back from its
status unless that status means something else; and a status with a handle comes to the handle, to
the error of the status, or to the lack of an object. -/
theorem status_translation_exact :
    (NativeError.all.length = 58 ∧ (NativeError.all.map NativeError.code).Nodup ∧
      ∀ status, Meaningful status ↔ (-19 ≤ status ∧ status ≤ -1) ∨ (-68 ≤ status ∧ status ≤ -30)) ∧
    (∀ status, (CallError.ofStatus? status = none ↔ status = 0) ∧
      (status ≠ 0 → ∃ error, CallError.ofStatus? status = some error ∧ error.status? = some status ∧
        (error = .other status ↔ ¬ Meaningful status))) ∧
    Function.Injective CallError.ofStatus? ∧
    (∀ (error : CallError) status, error.status? = some status →
      (CallError.ofStatus? status = some error ↔ ¬ error.Estranged)) ∧
    ∀ status handle,
      (∀ accepted, checkHandle status handle = .ok accepted ↔
        (status = 0 ∧ handle ≠ 0) ∧ handle = accepted) ∧
      ∀ error, checkHandle status handle = .error error ↔ CallError.ofStatus? status = some error ∨
        (status = 0 ∧ handle = 0 ∧ error = .nullHandle) := by
  refine ⟨⟨rfl, Listed.nodup_codes, fun _ => meaningful_iff⟩, ?_, ofStatus?_injective, ?_, ?_⟩
  · intro status
    refine ⟨ofStatus?_eq_none_iff, ?_⟩
    intro failed
    by_cases meaningful : Meaningful status
    · obtain ⟨native, rfl⟩ := meaningful
      exact ⟨_, ofStatus?_code native, rfl, iff_of_false CallError.noConfusion fun not => not ⟨native, rfl⟩⟩
    · exact ⟨_, ofStatus?_of_meaningless failed meaningful, rfl, iff_of_true rfl meaningful⟩
  · intro error status kept
    exact ofStatus?_status_iff kept
  · intro status handle
    exact ⟨fun _ => checkHandle_ok_iff, fun _ => checkHandle_error_iff⟩

/-- A status without a meaning is taken as it is; the log of a failed build is lost in its status. -/
theorem meaningless_translated :
    ((-1001 : Int) ≠ 0 ∧ (CallError.build "x").status? = some (-11)) ∧
    (∃ error, CallError.ofStatus? (-1001) = some error ∧ error.status? = some (-1001) ∧
      (error = .other (-1001) ↔ ¬ Meaningful (-1001))) ∧
    CallError.ofStatus? (-11) ≠ some (.build "x") := by
  obtain ⟨_, translated, _, back, _⟩ := status_translation_exact
  have failed : (-1001 : Int) ≠ 0 := by decide
  have kept : (CallError.build "x").status? = some (-11) := rfl
  refine ⟨⟨failed, kept⟩, (translated (-1001)).2 failed, ?_⟩
  intro same
  exact (back _ _ kept).mp same trivial

end Offload
