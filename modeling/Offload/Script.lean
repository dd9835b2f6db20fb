import Offload.Host.Query

/-! Questions that are answered from a list of replies. They show how a question is put:
how often, and with which windows. -/
namespace Offload

/-- A reply stores what fits into the window, whatever its status is. -/
structure ScriptedReply where
  status : Int
  bytes : Bytes := []
  length? : Option Nat := none
  deriving DecidableEq, Repr

def ScriptedReply.respond (reply : ScriptedReply) (window : Window) : Response where
  status := reply.status
  writes := if window.value then [(0, .ofBytes (reply.bytes.take window.size))] else []
  reported := if window.length then some (reply.length?.getD reply.bytes.length) else none

/-- The replies still to come, the last of which repeats, and the windows so far, newest first. -/
structure Script where
  next : ScriptedReply
  later : List ScriptedReply := []
  windows : List Window := []
  deriving DecidableEq, Repr

namespace Script

def ofList? : List ScriptedReply → Option Script
  | [] => none
  | reply :: later => some { next := reply, later := later }

/-- The script after the next reply has been given. -/
def advanced (script : Script) (window : Window) : Script :=
  match script.later with
  | [] => { script with windows := window :: script.windows }
  | reply :: later => { next := reply, later := later, windows := window :: script.windows }

/-- The question that a script answers. -/
def question : Host.Question Script := fun window script =>
  (.ok (script.next.respond window), script.advanced window)

/-- Puts a question to a script. Gives the result and the windows in order. -/
def run {α : Type} (script : Script) (ask : Host.Question Script → Host.Action Script α) :
    Except Host.Stop α × List Window :=
  let (result, scene) := (ask question).perform { world := script }
  (result, scene.world.windows.reverse)

end Script
end Offload
