import Offload.Coded

/-! How a device provides its local memory, and which cache it has for global memory. -/
namespace Offload

inductive LocalMemoryKind where
  | none | dedicated | global
  deriving DecidableEq, Repr

namespace LocalMemoryKind

def all : List LocalMemoryKind := [.none, .dedicated, .global]

def code : LocalMemoryKind → Int
  | .none => 0 | .dedicated => 1 | .global => 2

def label : LocalMemoryKind → String
  | .none => "None" | .dedicated => "Local" | .global => "Global"

instance : Labelled LocalMemoryKind where
  members := all
  code := code
  label := label
  name := label
  mem_members := by intro kind; cases kind <;> decide
  nodup_codes := by decide

end LocalMemoryKind

inductive CacheKind where
  | none | readOnly | readWrite
  deriving DecidableEq, Repr

namespace CacheKind

def all : List CacheKind := [.none, .readOnly, .readWrite]

def code : CacheKind → Int
  | .none => 0 | .readOnly => 1 | .readWrite => 2

def label : CacheKind → String
  | .none => "None" | .readOnly => "ReadOnlyCache" | .readWrite => "ReadWriteCache"

instance : Labelled CacheKind where
  members := all
  code := code
  label := label
  name := label
  mem_members := by intro kind; cases kind <;> decide
  nodup_codes := by decide

end CacheKind
end Offload
