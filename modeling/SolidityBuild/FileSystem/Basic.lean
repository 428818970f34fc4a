import SolidityBuild.Path

/-! # File systems

A tree of directories, files and symbolic links, as the list of its entries in
the order in which they were made. Every entry has the names that lead to it from
the root; the root itself is always a directory.
-/

namespace SolidityBuild

/-- What an entry of the file system is. -/
inductive Node where
  | file (contents : List UInt8)
  | directory
  /-- A symbolic link and the path it stands for. -/
  | link (target : List Rune)
  deriving DecidableEq, Repr

/-- The names that lead from the root to an entry. -/
abbrev Location := List Path.Name

structure FileSystem where
  entries : List (Location × Node)
  deriving DecidableEq, Repr

namespace FileSystem

def empty : FileSystem := ⟨[]⟩

def node? (fs : FileSystem) (location : Location) : Option Node :=
  if location.isEmpty then some .directory else fs.entries.lookup location

/-- Replace an entry in its place, or add it at the end. -/
def replaceEntry (location : Location) (node : Node) :
    List (Location × Node) → List (Location × Node)
  | [] => [(location, node)]
  | (l, old) :: rest =>
    if l = location then (location, node) :: rest else (l, old) :: replaceEntry location node rest

/-- Put an entry at a location. -/
def put (fs : FileSystem) (location : Location) (node : Node) : FileSystem :=
  ⟨replaceEntry location node fs.entries⟩

/-- Remove an entry and all that lies below it. -/
def remove (fs : FileSystem) (location : Location) : FileSystem :=
  ⟨fs.entries.filter fun entry => !location.isPrefixOf entry.1⟩

theorem lookup_replaceEntry_self (location : Location) (node : Node)
    (entries : List (Location × Node)) :
    (replaceEntry location node entries).lookup location = some node := by
  induction entries with
  | nil => simp [replaceEntry]
  | cons entry rest ih =>
    obtain ⟨l, old⟩ := entry
    by_cases h : l = location
    · simp [replaceEntry, h]
    · simp [replaceEntry, h, List.lookup_cons, beq_false_of_ne (Ne.symm h), ih]

theorem lookup_replaceEntry_of_ne {location other : Location} (h : other ≠ location) (node : Node)
    (entries : List (Location × Node)) :
    (replaceEntry location node entries).lookup other = entries.lookup other := by
  induction entries with
  | nil => simp [replaceEntry, List.lookup_cons, beq_false_of_ne h]
  | cons entry rest ih =>
    obtain ⟨l, old⟩ := entry
    by_cases hl : l = location
    · subst hl; simp [replaceEntry, List.lookup_cons, beq_false_of_ne h]
    · by_cases ho : other = l
      · subst ho; simp [replaceEntry, hl]
      · simp [replaceEntry, hl, List.lookup_cons, beq_false_of_ne ho, ih]

theorem node?_put_self (fs : FileSystem) {location : Location} (h : location ≠ [])
    (node : Node) : (fs.put location node).node? location = some node := by
  have : location.isEmpty = false := by simpa using h
  simp [put, node?, this, lookup_replaceEntry_self]

theorem node?_put_of_ne (fs : FileSystem) {location other : Location} (h : other ≠ location)
    (node : Node) : (fs.put location node).node? other = fs.node? other := by
  simp [put, node?, lookup_replaceEntry_of_ne h]

end FileSystem

end SolidityBuild
