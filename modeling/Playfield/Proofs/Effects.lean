import Playfield.Proofs.Execution

/-!
What executing a value can change. Every value may exchange a few values on top of the stack, make
a note and switch a mode; whatever goes beyond that is reserved to a kind of instruction. `Effect`
lists these kinds once, and each fact about a part of the machine is read off it.
-/

namespace Playfield

namespace Instruction

def moves : Instruction → Bool
  | .go _ | .goRandom | .branchHorizontal | .branchVertical => true
  | _ => false

def prints : Instruction → Bool
  | .printNumber | .printCharacter => true
  | _ => false

end Instruction

namespace Stack

/-- The second stack is the first one without some of its top values, at most as many as may be
removed, and with new values in their place, at most as many as may be added. -/
def Exchanges (added removed : Nat) (before after : Stack) : Prop :=
  ∃ values count, values.length ≤ added ∧ count ≤ removed ∧
    after.values = values ++ before.values.drop count

namespace Exchanges
variable {added removed : Nat} {before after : Stack}

theorem refl (stack : Stack) : Exchanges added removed stack stack :=
  ⟨[], 0, Nat.zero_le _, Nat.zero_le _, rfl⟩

theorem push (exchanges : Exchanges added removed before after) (value : Int64) :
    Exchanges (added + 1) removed before (after.push value) := by
  obtain ⟨values, count, few, top, same⟩ := exchanges
  exact ⟨value :: values, count, Nat.succ_le_succ few, top, congrArg (value :: ·) same⟩

-- As long as nothing was added, the next value to go is one of the old ones.
theorem rest (exchanges : Exchanges 0 removed before after) :
    Exchanges added (removed + 1) before after.rest := by
  obtain ⟨values, count, few, top, same⟩ := exchanges
  cases List.eq_nil_of_length_eq_zero (Nat.le_zero.mp few)
  refine ⟨[], count + 1, Nat.zero_le _, Nat.succ_le_succ top, ?_⟩
  rw [Stack.rest, same, List.nil_append, List.nil_append, List.tail_drop]

end Exchanges

end Stack

namespace Output

/-- The second output is the first one with more printed. -/
def Grows (before after : Output) : Prop := ∃ piece, after = before.append piece

theorem Grows.refl (output : Output) : Grows output output :=
  ⟨"", by rw [append, String.append_empty]⟩

theorem grows_printNumber (output : Output) (value : Int64) :
    Grows output (output.printNumber value) := ⟨_, rfl⟩

theorem grows_printChar (output : Output) (character : Char) :
    Grows output (output.printChar character) := by
  refine ⟨String.singleton character, ?_⟩
  rw [append, String.append_singleton]
  rfl

end Output

theorem Replies.take_rest_suffix (replies : Replies) (request : Request) :
    (replies.take request).rest.supplied <:+ replies.supplied ∧
      (replies.take request).rest.script <:+ replies.script := by
  simp only [take]
  split
  · exact ⟨search_rest request replies.supplied, List.suffix_rfl⟩
  · exact ⟨List.nil_suffix, search_rest request replies.script⟩

namespace Machine

def dispatched? (machine : Machine) (value : Int64) : Option Instruction :=
  if machine.counter.stringMode || machine.counter.skipNext then none
  else Instruction.decode machine.extended value

theorem dispatched?_eq_some {machine : Machine} {value : Int64} {instruction : Instruction} :
    machine.dispatched? value = some instruction ↔ machine.Dispatches value instruction := by
  constructor
  · intro dispatched
    unfold dispatched? at dispatched
    split at dispatched
    · cases dispatched
    · rename_i plain
      simp only [Bool.or_eq_true, not_or, Bool.not_eq_true] at plain
      exact ⟨plain.1, plain.2, dispatched⟩
  · intro dispatched
    simp [dispatched?, dispatched.unquoted, dispatched.unskipped, dispatched.decoded]

/-- How a value acts that is dispatched as the given instruction, or as none. -/
inductive Effect (before : Machine) : Option Instruction → Machine → Prop where
  | quiet {instruction : Option Instruction} {stack : Stack}
      (few : before.stack.Exchanges 2 3 stack) (journal : Journal) (stringMode skipNext : Bool) :
      Effect before instruction
        { before with
          stack, journal, counter.stringMode := stringMode, counter.skipNext := skipNext }
  | turned {instruction : Instruction} (moves : instruction.moves = true) {stack : Stack}
      (few : before.stack.Exchanges 2 3 stack) (heading : Heading) {generator : Generator}
      (drawn : generator = before.generator ∨ instruction = .goRandom) :
      Effect before (some instruction)
        { before with stack, counter.heading := heading, generator }
  | printed {instruction : Instruction} (prints : instruction.prints = true) {stack : Stack}
      (few : before.stack.Exchanges 2 3 stack) {output : Output}
      (grows : before.output.Grows output) (journal : Journal) :
      Effect before (some instruction) { before with stack, output, journal }
  | took {request : Request} {stack : Stack} (few : before.stack.Exchanges 2 3 stack)
      {replies : Replies} (rest : replies = (before.replies.take request).rest)
      (journal : Journal) :
      Effect before (some (.read request)) { before with stack, replies, journal }
  | stored {stack : Stack} (few : before.stack.Exchanges 2 3 stack) (place : Position)
      (value : Int64) :
      Effect before (some .put)
        { before with stack, grid := before.grid.setValue place value }
  | ended (journal : Journal) :
      Effect before (some .halt) { before with counter.halted := true, journal }

theorem perform_effect (machine : Machine) (instruction : Instruction) :
    Effect machine (some instruction) (machine.perform instruction).2 := by
  cases instruction with
  | literal value => exact .quiet (.push (.refl _) _) _ _ _
  | arithmetic operator =>
      simp only [perform, calculate]
      split
      · exact .quiet (.push (.rest (.rest (.refl _))) _) _ _ _
      · exact .quiet (.rest (.rest (.refl _))) _ _ _
  | isZero => exact .quiet (.push (.rest (.refl _)) _) _ _ _
  | greater => exact .quiet (.push (.rest (.rest (.refl _))) _) _ _ _
  | go heading => exact .turned rfl (.refl _) _ (Or.inl rfl)
  | goRandom => exact .turned rfl (.refl _) _ (Or.inr rfl)
  | branchHorizontal => exact .turned rfl (.rest (.refl _)) _ (Or.inl rfl)
  | branchVertical => exact .turned rfl (.rest (.refl _)) _ (Or.inl rfl)
  | duplicate => exact .quiet (.push (.push (.rest (.refl _)) _) _) _ _ _
  | discard => exact .quiet (.rest (.refl _)) _ _ _
  | printNumber => exact .printed rfl (.rest (.refl _)) (Output.grows_printNumber _ _) _
  | printCharacter =>
      simp only [perform, printCharacter]
      split
      · exact .printed rfl (.rest (.refl _)) (Output.grows_printChar _ _) _
      · exact .printed rfl (.rest (.refl _)) (Output.grows_printChar _ _) _
  | read request =>
      simp only [perform]
      cases found : (machine.replies.take request).found with
      | some usable =>
          rw [read_of_found found]
          exact .took (.push (.refl _) _) rfl _
      | none =>
          have empty := machine.replies.take_of_found_none request found
          rw [read_of_missing found]
          exact .took (.refl _) (congrArg Replies.Taken.rest empty).symm _
  | get => exact .quiet (.push (.rest (.rest (.refl _))) _) _ _ _
  | put => exact .stored (.rest (.rest (.rest (.refl _)))) _ _
  | openString => exact .quiet (.refl _) _ _ _
  | bridge => exact .quiet (.refl _) _ _ _
  | pass => exact .quiet (.refl _) _ _ _
  | halt => exact .ended _

theorem execute_effect (machine : Machine) (value : Int64) :
    Effect machine (machine.dispatched? value) (machine.execute value).2 := by
  cases machine.role value with
  | closing quoted quote =>
      rw [execute_of_closing quoted quote]
      exact .quiet (.refl _) _ _ _
  | quoted quoted other =>
      rw [execute_of_quoted quoted other]
      exact .quiet (.push (.refl _) _) _ _ _
  | skipped unquoted skipped =>
      rw [execute_of_skipped unquoted skipped]
      exact .quiet (.refl _) _ _ _
  | invalid unquoted unskipped undecoded =>
      rw [execute_of_invalid unquoted unskipped undecoded]
      exact .quiet (.refl _) _ _ _
  | dispatched dispatched =>
      rw [execute_of_dispatches dispatched, dispatched?_eq_some.mpr dispatched]
      exact machine.perform_effect _

/-! The parts of a machine. -/

namespace Effect
variable {before after : Machine} {instruction : Option Instruction}

theorem stack (effect : Effect before instruction after) :
    before.stack.Exchanges 2 3 after.stack := by
  cases effect with
  | quiet few => exact few
  | turned _ few => exact few
  | printed _ few => exact few
  | took few => exact few
  | stored few => exact few
  | ended => exact .refl _

theorem grid (effect : Effect before instruction after) :
    after.grid = before.grid ∨ instruction = some .put := by
  cases effect with
  | stored => exact Or.inr rfl
  | _ => exact Or.inl rfl

theorem elsewhere (effect : Effect before instruction after) :
    ∃ place, ∀ position, before.grid.index position ≠ before.grid.index place →
      after.grid.cell position = before.grid.cell position := by
  cases effect with
  | stored few place value =>
      refine ⟨place, ?_⟩
      intro position other
      exact (before.grid.cell_modify place position _).trans (if_neg (Ne.symm other))
  | _ => exact ⟨.origin, fun _ _ => rfl⟩

theorem heading (effect : Effect before instruction after) :
    after.counter.heading = before.counter.heading ∨
      ∃ movement, instruction = some movement ∧ movement.moves = true := by
  cases effect with
  | turned moves => exact Or.inr ⟨_, rfl, moves⟩
  | _ => exact Or.inl rfl

theorem generator (effect : Effect before instruction after) :
    after.generator = before.generator ∨ instruction = some .goRandom := by
  cases effect with
  | turned _ _ _ drawn =>
      rcases drawn with same | random
      · exact Or.inl same
      · exact Or.inr (congrArg some random)
  | _ => exact Or.inl rfl

theorem output (effect : Effect before instruction after) :
    before.output.Grows after.output := by
  cases effect with
  | printed _ _ grows => exact grows
  | _ => exact .refl _

theorem silent (effect : Effect before instruction after) :
    after.output = before.output ∨
      ∃ printer, instruction = some printer ∧ printer.prints = true := by
  cases effect with
  | printed prints => exact Or.inr ⟨_, rfl, prints⟩
  | _ => exact Or.inl rfl

theorem halted (effect : Effect before instruction after) :
    after.counter.halted = before.counter.halted ∨
      instruction = some .halt ∧ after.counter.halted = true := by
  cases effect with
  | ended => exact Or.inr ⟨rfl, rfl⟩
  | _ => exact Or.inl rfl

theorem replies (effect : Effect before instruction after) :
    after.replies = before.replies ∨ ∃ request, instruction = some (.read request) ∧
      after.replies = (before.replies.take request).rest := by
  cases effect with
  | took _ rest => exact Or.inr ⟨_, rfl, rest⟩
  | _ => exact Or.inl rfl

theorem suffixes (effect : Effect before instruction after) :
    after.replies.supplied <:+ before.replies.supplied ∧
      after.replies.script <:+ before.replies.script := by
  cases effect with
  | @took request _ _ _ rest =>
      cases rest
      exact before.replies.take_rest_suffix request
  | _ => exact ⟨List.suffix_rfl, List.suffix_rfl⟩

end Effect

/-- What executing a value leaves of a machine. Everything but the stack changes only for the
instructions that it belongs to, and a value that is quoted or passed over does nothing but go onto
the stack or switch the mode. -/
structure Confined (before : Machine) (value : Int64) (after : Machine) : Prop where
  kept : Kept before after
  stack : before.stack.Exchanges 2 3 after.stack
  grid : after.grid = before.grid ∨ before.dispatched? value = some .put
  elsewhere : ∃ place, ∀ position, before.grid.index position ≠ before.grid.index place →
    after.grid.cell position = before.grid.cell position
  heading : after.counter.heading = before.counter.heading ∨
    ∃ movement, before.dispatched? value = some movement ∧ movement.moves = true
  generator : after.generator = before.generator ∨ before.dispatched? value = some .goRandom
  text : ∃ piece, after.output.text = before.output.text ++ piece
  silent : after.output.text = before.output.text ∨
    ∃ printer, before.dispatched? value = some printer ∧ printer.prints = true
  halted : before.counter.halted = true → after.counter.halted = true
  running : after.counter.halted = before.counter.halted ∨ before.dispatched? value = some .halt
  supplied : after.replies.supplied <:+ before.replies.supplied
  script : after.replies.script <:+ before.replies.script
  replies : after.replies = before.replies ∨
    ∃ request, before.dispatched? value = some (.read request)
  quoted : before.counter.stringMode = true →
    after = if value = Instruction.quote then { before with counter.stringMode := false }
      else before.push value
  skipped : before.counter.stringMode = false → before.counter.skipNext = true →
    after = { before with counter.skipNext := false }

/-- Executing a value is confined in this way in every machine, also if it faults or has to wait. -/
theorem execute_confined (machine : Machine) (value : Int64) :
    Confined machine value (machine.execute value).2 := by
  have effect := machine.execute_effect value
  refine ⟨machine.execute_kept value, effect.stack, effect.grid, effect.elsewhere, effect.heading,
    effect.generator, ?_, ?_, ?_, ?_, effect.suffixes.1, effect.suffixes.2, ?_, ?_, ?_⟩
  · obtain ⟨piece, grown⟩ := effect.output
    exact ⟨piece, congrArg Output.text grown⟩
  · exact effect.silent.imp_left (congrArg Output.text)
  · intro halted
    rcases effect.halted with same | ⟨_, ended⟩
    · exact same.trans halted
    · exact ended
  · exact effect.halted.imp_right And.left
  · rcases effect.replies with same | ⟨request, dispatched, _⟩
    · exact Or.inl same
    · exact Or.inr ⟨request, dispatched⟩
  · intro quoted
    by_cases quote : value = Instruction.quote
    · rw [execute_of_closing quoted quote, if_pos quote]
    · rw [execute_of_quoted quoted quote, if_neg quote]
  · intro unquoted skipped
    rw [execute_of_skipped unquoted skipped]

end Machine

end Playfield
