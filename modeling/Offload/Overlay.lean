import Offload.Driver.Request

/-! A layer over a driver that answers some information queries itself, changes reported
counts and hides the events of queued commands. Everything else passes through. -/
namespace Offload

/-- A prepared answer. `truncate` hands out what fits instead of refusing a small buffer,
`length?` replaces the reported length. -/
structure PreparedReply where
  status : Int := 0
  bytes : Bytes := []
  truncate : Bool := false
  length? : Option Nat := none
  deriving DecidableEq, Repr

namespace PreparedReply

/-- The response to a query with the given window. -/
def respond (reply : PreparedReply) (window : Window) : Response :=
  if reply.status ≠ 0 then { status := reply.status }
  else if window.value ∧ window.size < reply.bytes.length ∧ !reply.truncate then
    { status := NativeError.invalidValue.code }
  else {
    writes := if window.value then [(0, .ofBytes (reply.bytes.take window.size))] else []
    reported := if window.length then some (reply.length?.getD reply.bytes.length) else none }

end PreparedReply

/-- What has been arranged. Of several arrangements for the same call the first counts. -/
structure Overlay where
  replies : List ((InfoTopic × Int) × PreparedReply) := []
  counts : List (EntryPoint × Nat) := []
  hidden : List CommandKind := []
  deriving DecidableEq, Repr

namespace Overlay

/-- Answers every later query of a topic for a parameter. -/
def prepare (overlay : Overlay) (topic : InfoTopic) (parameter : Int) (reply : PreparedReply) : Overlay :=
  { overlay with replies := ((topic, parameter), reply) :: overlay.replies }

/-- Replaces the count that a listing call reports. -/
def recount (overlay : Overlay) (entry : EntryPoint) (count : Nat) : Overlay :=
  { overlay with counts := (entry, count) :: overlay.counts }

/-- Hides the events of commands of one kind. -/
def hide (overlay : Overlay) (kind : CommandKind) : Overlay :=
  { overlay with hidden := kind :: overlay.hidden }

/-- The prepared answer to a request, if there is one. -/
def answer? (overlay : Overlay) : Request → Option Response
  | .info query parameter window =>
    (overlay.replies.lookup (query.topic, parameter)).map fun reply => reply.respond window
  | _ => none

/-- Whether a listing call has a place for the count. -/
def wantsCount : Request → Bool
  | .platformIds _ _ wantCount => wantCount
  | .deviceIds _ _ _ _ wantCount => wantCount
  | .imageFormats _ _ _ _ _ wantCount => wantCount
  | _ => false

/-- The arranged count in the place of the reported one, once the call has succeeded. -/
def recounted (overlay : Overlay) (request : Request) (response : Response) : Response :=
  match overlay.counts.lookup request.entry with
  | some count =>
    if response.status = 0 ∧ wantsCount request then { response with reported := some count }
    else response
  | none => response

/-- What is changed about a response that passed through. -/
def adjust (overlay : Overlay) (request : Request) (response : Response) : Response :=
  match request with
  | .enqueue _ command _ _ =>
    if overlay.hidden.contains command.kind then { response with handle := 0 } else response
  | request => overlay.recounted request response

/-- The layered driver. -/
def driver {σ : Type} (inner : Driver σ) : Driver (Overlay × σ) := fun request (overlay, state) =>
  match overlay.answer? request with
  | some response => (.ok response, (overlay, state))
  | none =>
    let (answer, next) := inner request state
    (answer.map (overlay.adjust request), (overlay, next))

/-- The driver below the layer, as it is. -/
def bypass {σ : Type} (inner : Driver σ) : Driver (Overlay × σ) := fun request (overlay, state) =>
  let (answer, next) := inner request state
  (answer, (overlay, next))

/-- Where nothing has been arranged, the layer is not noticed. -/
theorem driver_of_empty {σ : Type} (inner : Driver σ) (request : Request) (state : σ) :
    driver inner request ({}, state) = bypass inner request ({}, state) := by
  have unchanged : adjust {} request = id := by
    funext response
    cases request <;> simp [adjust, recounted]
  have unanswered : answer? {} request = none := by
    cases request <;> simp [answer?]
  simp only [driver, unanswered, unchanged, bypass]
  cases (inner request state).1 <;> rfl

end Overlay
end Offload
