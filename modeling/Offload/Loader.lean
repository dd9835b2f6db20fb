import Offload.CallError
import Offload.Host.Notice
import Offload.Text.Search

/-! Choosing the library that provides a native driver: a configured name first, then the
usual names of the platform. -/
namespace Offload

structure LoaderConfig where
  library? : Option String := none
  noDefaults : Bool := false
  deriving DecidableEq, Repr

/-- The usual names of the library, in the order in which they are tried. -/
def defaultLibraries : List String := ["libOpenCL.so.1", "libOpenCL.so"]

namespace LoaderConfig

/-- The configuration that an environment variable asks for; an empty value asks for nothing. -/
def ofEnvironment (value? : Option String) : LoaderConfig :=
  { library? := value?.filter fun value => !value.isEmpty }

def withLibrary (config : LoaderConfig) (library : String) : LoaderConfig :=
  { config with library? := some library }

def withoutDefaults (config : LoaderConfig) : LoaderConfig := { config with noDefaults := true }

/-- Names of libraries in the order in which they are tried. -/
def candidates (config : LoaderConfig) : List String :=
  config.library?.toList ++ if config.noDefaults then [] else defaultLibraries

def written (config : LoaderConfig) : String :=
  Text.writtenRecord "LoaderConfig"
    [("library", Text.writtenOption (config.library?.map Text.quoted)),
     ("no_defaults", if config.noDefaults then "true" else "false")]

end LoaderConfig

/-- An attempt to open a library gives the opened library or a reason. -/
abbrev Opener (α : Type) := (path : String) → Except String α

namespace Opener
variable {α : Type}

/-- Tries names in order, collecting the reasons of the failures, until one opens. -/
def tryAll (opener : Opener α) : (paths : List String) → (reasons : List String) →
    Except (List String) (String × α) × List Host.Notice
  | [], reasons => (.error reasons, [])
  | path :: rest, reasons =>
    match opener path with
    | .ok library => (.ok (path, library), [.tryingLibrary path, .loadedLibrary path])
    | .error reason =>
      let (result, notices) := tryAll opener rest (reasons ++ [path ++ ": " ++ reason])
      (result, .tryingLibrary path :: notices)

/-- The error of a search in which nothing opened. -/
def notFound (reasons : List String) : CallError :=
  .libraryNotFound <|
    if reasons.isEmpty then "no candidate libraries configured" else "; ".intercalate reasons

/-- Opens the first candidate that can be opened, and lists what was tried. -/
def load (opener : Opener α) (config : LoaderConfig) :
    Except CallError (String × α) × List Host.Notice :=
  let (result, notices) := opener.tryAll config.candidates []
  (result.mapError notFound, notices)

end Opener

/-- A place without any library. -/
def Opener.nowhere : Opener Empty := fun _ => .error "no such library"

/-- The candidates that a text mentions. -/
def mentioned (text : String) (candidates : List String) : List String :=
  candidates.filter fun candidate => Text.occursIn candidate.toList text.toList

end Offload
