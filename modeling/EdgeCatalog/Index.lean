/-! Indexes: the keys of a table in ascending order, sorted anew after every change. -/
namespace EdgeCatalog

/-- Puts a key in front of the first one that is not below it. -/
def insertKey (key : String) : List String → List String
  | [] => [key]
  | k :: rest => if k < key then k :: insertKey key rest else key :: k :: rest

/-- The keys in ascending order, repetitions kept. -/
def sortKeys (keys : List String) : List String :=
  keys.foldr insertKey []

/-- A list of keys in ascending order. -/
structure Index where
  keys : List String
  deriving DecidableEq

namespace Index

def empty : Index :=
  ⟨[]⟩

instance : EmptyCollection Index := ⟨empty⟩
instance : Inhabited Index := ⟨empty⟩

/-- The index of the given keys; nothing is left of what it held before. -/
def rebuild (_ : Index) (keys : List String) : Index :=
  ⟨sortKeys keys⟩

def size (index : Index) : Nat :=
  index.keys.length

def isEmpty (index : Index) : Bool :=
  index.keys.isEmpty

end Index

end EdgeCatalog
