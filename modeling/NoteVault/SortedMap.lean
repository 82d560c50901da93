import NoteVault.Keyed

namespace NoteVault

-- Values by key, with the keys in increasing order.
structure SortedMap (ν : Type) where
  entries : Keyed ν
  sorted : entries.Sorted
deriving DecidableEq, Repr

namespace SortedMap

variable {ν : Type}

def empty : SortedMap ν := ⟨[], .nil⟩

def get? (map : SortedMap ν) (key : String) : Option ν :=
  Keyed.get? key map.entries

def contains (map : SortedMap ν) (key : String) : Bool :=
  (map.get? key).isSome

-- An older value of the key is replaced.
def insert (map : SortedMap ν) (key : String) (value : ν) : SortedMap ν :=
  ⟨Keyed.insert key value map.entries, map.sorted.insert key value⟩

def erase (map : SortedMap ν) (key : String) : SortedMap ν :=
  ⟨Keyed.erase key map.entries, map.sorted.erase key⟩

-- Of several values of one key the last is kept.
def ofList (entries : List (String × ν)) : SortedMap ν :=
  ⟨Keyed.ofList entries, Keyed.sorted_ofList entries⟩

def keys (map : SortedMap ν) : List String :=
  Keyed.keys map.entries

def size (map : SortedMap ν) : Nat :=
  map.entries.length

-- The map with other keys for its values. Keys that fall together keep the last.
def mapKeys (rename : String → String) (map : SortedMap ν) : SortedMap ν :=
  ofList (map.entries.map fun entry => (rename entry.1, entry.2))

theorem get?_insert (map : SortedMap ν) (key other : String) (value : ν) :
    (map.insert key value).get? other = if other = key then some value else map.get? other :=
  Keyed.get?_insert key other value map.entries

theorem get?_erase (map : SortedMap ν) (key other : String) :
    (map.erase key).get? other = if other = key then none else map.get? other :=
  Keyed.get?_erase key other map.entries

end SortedMap

end NoteVault
