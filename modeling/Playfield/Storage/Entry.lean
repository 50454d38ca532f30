/-!
Trees of files and folders. What stands in a tree is found by the names that lead to it.
-/

namespace Playfield

inductive Entry where
  | file (bytes : ByteArray)
  /-- A device that is always empty and drops what is written to it. -/
  | sink
  | folder (entries : List (List Char × Entry))

def assign {κ ν : Type} [BEq κ] (key : κ) (value : ν) : List (κ × ν) → List (κ × ν)
  | [] => [(key, value)]
  | first :: rest =>
      if key == first.1 then (key, value) :: rest else first :: assign key value rest

theorem lookup_assign {κ ν : Type} [BEq κ] [LawfulBEq κ] (key : κ) (value : ν)
    (pairs : List (κ × ν)) : (assign key value pairs).lookup key = some value := by
  induction pairs with
  | nil => simp [assign]
  | cons first rest ih =>
    obtain ⟨other, held⟩ := first
    by_cases same : key == other
    · simp [assign, same]
    · simp [assign, same, List.lookup_cons, ih]

namespace Entry

def emptyFolder : Entry := .folder []

def find? : Entry → List (List Char) → Option Entry
  | entry, [] => some entry
  | .folder entries, name :: rest =>
      match entries.lookup name with
      | some entry => entry.find? rest
      | none => none
  | _, _ :: _ => none

/-- The tree with another entry where some names lead. Folders on the way are made if need be;
nothing can be put below a file. -/
def put (entry : Entry) : List (List Char) → Entry → Entry
  | [], _ => entry
  | name :: rest, .folder entries =>
      .folder (assign name (put entry rest ((entries.lookup name).getD emptyFolder)) entries)
  | _ :: _, tree => tree

end Entry

end Playfield
