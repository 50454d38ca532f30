import Playfield.Language.Request

/-!
Replies waiting for an input instruction. Those supplied by a host come before those of the
script that the machine was started with; both are used in order and each one once.
-/

namespace Playfield

structure Replies where
  supplied : List String
  script : List String
  deriving DecidableEq

namespace Replies

def ofScript (script : List String) : Replies := ⟨[], script⟩

def supply (replies : Replies) (reply : String) : Replies :=
  { replies with supplied := replies.supplied ++ [reply] }

/-- All replies in the order of their use. -/
def queue (replies : Replies) : List String :=
  replies.supplied ++ replies.script

def next (replies : Replies) : Option String × Replies :=
  match replies with
  | ⟨reply :: rest, script⟩ => (some reply, ⟨rest, script⟩)
  | ⟨[], reply :: rest⟩ => (some reply, ⟨[], rest⟩)
  | ⟨[], []⟩ => (none, replies)

/-! Looking for a usable reply. -/

structure Search where
  refused : List String
  /-- The first usable reply and its value. -/
  found : Option (String × Int64)
  rest : List String
  deriving DecidableEq

def search (request : Request) : List String → Search
  | [] => ⟨[], none, []⟩
  | reply :: rest =>
      match request.value? reply with
      | some value => ⟨[], some (reply, value), rest⟩
      | none =>
          let later := search request rest
          ⟨reply :: later.refused, later.found, later.rest⟩

structure Taken where
  refused : List String
  found : Option (String × Int64)
  rest : Replies
  deriving DecidableEq

/-- Takes replies up to the first usable one. The script is asked only when no supplied reply
is left. -/
def take (replies : Replies) (request : Request) : Taken :=
  let first := search request replies.supplied
  match first.found with
  | some found => ⟨first.refused, some found, ⟨first.rest, replies.script⟩⟩
  | none =>
      let second := search request replies.script
      ⟨first.refused ++ second.refused, second.found, ⟨[], second.rest⟩⟩

end Replies

end Playfield
