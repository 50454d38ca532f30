import Mathlib.Algebra.Group.Nat.Defs
import Mathlib.Data.String.Basic
import Playfield.Proofs.History
import Playfield.Proofs.Rectangles

/-!
The program that prints a text. It quotes the text backwards, prints as many characters as the text
has and stops. Its one row is walked from end to end, one column a step, so the run is told by what
is still ahead of the counter: first the quoted characters, which only go onto the stack whatever
they are, then the commas, which take them off again in the order of the text.
-/

namespace Playfield

namespace ProgramText

open Scalar (code)

def printingRow (text : List Char) : List Char :=
  '"' :: (text.reverse ++ '"' :: (List.replicate text.length ',' ++ ['@']))

def printing (text : String) : String := String.ofList (printingRow text.toList)

theorem printingRow_eq (text : List Char) :
    printingRow text =
      ('"' :: (text.reverse ++ ['"'])) ++ (List.replicate text.length ',' ++ ['@']) := by
  simp [printingRow]

theorem length_le_bytes (text : List Char) :
    text.length ≤ (String.ofList text).utf8ByteSize := by
  rw [String.utf8ByteSize_ofList]
  induction text with
  | nil => exact Nat.le_refl 0
  | cons first later ih =>
      have size := first.utf8Size_pos
      rw [List.length_cons, String.utf8Len_cons]
      omega

theorem parse_line {line : List Char} (wide : line ≠ []) (whole : '\n' ∉ line)
    (unreturned : line.getLast? ≠ some '\r') :
    ∃ grid, parse (String.ofList line) = .ok grid ∧ Holds grid [line] := by
  have cut : [line] = lines line := (isLines_iff line [line]).mp (isLines_of_line whole unreturned)
  have rows : ∀ row ∈ ([] : List (List Int64)), row.length = (line.map code).length := by
    intro row listed
    cases listed
  obtain ⟨grid, made⟩ := Grid.ofRows_of_even (mt List.map_eq_nil_iff.mp wide) rows
  have read : parse (String.ofList line) = .ok grid := by
    rw [parse, String.toList_ofList, ← cut]
    exact made
  have holds := holds_of_parse read
  rw [String.toList_ofList, ← cut] at holds
  exact ⟨grid, read, holds⟩

theorem parse_printing {text : String} (unfed : '\n' ∉ text.toList) :
    ∃ grid, parse (printing text) = .ok grid ∧ Holds grid [printingRow text.toList] := by
  have whole : '\n' ∉ printingRow text.toList := by simpa [printingRow] using unfed
  have unreturned : (printingRow text.toList).getLast? ≠ some '\r' := by
    rw [printingRow_eq, ← List.append_assoc, List.getLast?_concat]
    decide
  exact parse_line (List.cons_ne_nil _ _) whole unreturned

theorem Holds.cell_of_line {grid : Grid} {row : List Char} (holds : Holds grid [row]) {x : Nat}
    {character : Char} (inRow : row[x]? = some character) :
    grid.cell ⟨x, 0⟩ = Cell.ofValue (code character) := by
  have value := holds.value 0 row rfl x character inRow
  have mark := holds.unmarked ⟨x, 0⟩
  generalize grid.cell ⟨x, 0⟩ = cell at value mark
  cases cell
  cases mark
  rw [← Scalar.toInt_code] at value
  exact congrArg Cell.ofValue (Int64.toInt_inj.mp value)

end ProgramText

theorem Grid.offset_right (grid : Grid) {x : Nat} (height : grid.height = 1)
    (short : grid.width < 2 ^ 63) (inside : x + 1 < grid.width) :
    grid.offset ⟨x, 0⟩ 1 0 = ⟨x + 1, 0⟩ := by
  have column : wrap (signedWord x + 1) grid.width = x + 1 := by
    have small : x < 2 ^ 63 := by omega
    have next : ((x : Int) + 1) % grid.width = x + 1 := Int.emod_eq_of_lt (by omega) (by omega)
    rw [wrap_of_lt _ _ short, signedWord_of_lt x small, next]
    rfl
  rw [offset, wrapPosition, column, height]
  rfl

theorem Output.append_printChar (output : Output) (first : Char) (later : List Char) :
    (output.printChar first).append (String.ofList later) =
      output.append (String.ofList (first :: later)) := by
  have text : output.text.push first ++ String.ofList later =
      output.text ++ String.ofList (first :: later) := by
    apply String.toList_inj.mp
    simp
  simp only [append, printChar, text]

namespace Machine

open ProgramText (Holds)
open Scalar (code char?_code)

/-! Along a row. -/

/-- The machine runs to the right along the one row of its playfield; these characters of the row
are ahead of it, the one under the counter first. -/
structure Ahead (row : List Char) (machine : Machine) (characters : List Char) : Prop where
  holds : Holds machine.grid [row]
  short : row.length < 2 ^ 63
  running : machine.state = .running
  top : machine.position.y = 0
  ahead : row.drop machine.position.x = characters
  heading : machine.counter.heading = .right
  unhalted : machine.counter.halted = false

/-- The machine the given number of columns and steps further, with another stack, output and
quoting. -/
def further (machine : Machine) (count : Nat) (stack : Stack) (output : Output)
    (stringMode : Bool) : Machine :=
  { machine with
    stack, output
    counter.position.x := machine.position.x + count
    counter.stringMode := stringMode
    steps := machine.steps + count }

theorem further_further (machine : Machine) (first second : Nat) (early late : Stack)
    (before after : Output) (opened closed : Bool) :
    (machine.further first early before opened).further second late after closed =
      machine.further (first + second) late after closed := by
  simp only [further, position, Nat.add_assoc]

section Along
variable {row : List Char} {machine : Machine}

theorem Ahead.further {passed rest : List Char} (ahead : Ahead row machine (passed ++ rest))
    {count : Nat} (length : passed.length = count) (stack : Stack) (output : Output)
    (stringMode : Bool) : Ahead row (machine.further count stack output stringMode) rest := by
  refine ⟨ahead.holds, ahead.short, ahead.running, ahead.top, ?_, ahead.heading, ahead.unhalted⟩
  have later := congrArg (List.drop count) ahead.ahead
  rw [List.drop_drop, List.drop_left' length] at later
  exact later

theorem Ahead.next {first : Char} {rest : List Char} (ahead : Ahead row machine (first :: rest))
    (stack : Stack) (output : Output) (stringMode : Bool) :
    Ahead row (machine.further 1 stack output stringMode) rest := by
  have one : Ahead row machine ([first] ++ rest) := ahead
  exact one.further rfl stack output stringMode

theorem Ahead.place {characters : List Char} (ahead : Ahead row machine characters) :
    machine.position = ⟨machine.position.x, 0⟩ := by
  rw [← ahead.top]

theorem Ahead.current {first : Char} {rest : List Char}
    (ahead : Ahead row machine (first :: rest)) : machine.current = Cell.ofValue (code first) := by
  have inRow : row[machine.position.x]? = some first := by
    have head := congrArg List.head? ahead.ahead
    rw [List.head?_drop] at head
    exact head
  rw [Machine.current, ahead.place]
  exact ahead.holds.cell_of_line inRow

theorem Ahead.offset {first : Char} {rest : List Char} (ahead : Ahead row machine (first :: rest))
    (more : rest ≠ []) :
    machine.grid.offset machine.position 1 0 = ⟨machine.position.x + 1, machine.position.y⟩ := by
  have width : machine.grid.width = row.length :=
    ahead.holds.width row (List.mem_singleton_self row)
  have inside : machine.position.x + 1 < row.length := by
    have length := congrArg List.length ahead.ahead
    have positive := List.length_pos_iff.mpr more
    rw [List.length_drop, List.length_cons] at length
    omega
  rw [← width] at inside
  rw [ahead.place]
  exact machine.grid.offset_right ahead.holds.height (width ▸ ahead.short) inside

/-- An instruction that works on the stack, the output and the quoting only takes the machine one
column further. -/
theorem Ahead.runTo {first : Char} {rest : List Char} (ahead : Ahead row machine (first :: rest))
    (more : rest ≠ []) {stack : Stack} {output : Output} {stringMode : Bool}
    (executed : machine.execute (code first) =
      (.ok .done, machine.further 0 stack output stringMode)) (fuel : Nat) :
    Machine.runTo none (fuel + 1) machine =
      Machine.runTo none fuel (machine.further 1 stack output stringMode) := by
  have value : machine.current.value = code first := congrArg Cell.value ahead.current
  have moves : (machine.further 0 stack output stringMode).moved =
      machine.further 1 stack output stringMode := by
    have next : machine.grid.offset machine.position machine.counter.heading.delta.1
        machine.counter.heading.delta.2 = ⟨machine.position.x + 1, machine.position.y⟩ := by
      rw [ahead.heading]
      exact ahead.offset more
    exact congrArg (fun place => { machine with
      stack, output
      counter.position := place
      counter.stringMode := stringMode
      steps := machine.steps + 1 }) next
  have unmarked : (machine.further 1 stack output stringMode).current.breakpoint = false :=
    ahead.holds.unmarked _
  have running : { machine.further 1 stack output stringMode with state := .running } =
      machine.further 1 stack output stringMode := by
    rw [← ahead.running]
    rfl
  rw [← value] at executed
  have stepped := step_of_done (active_of_running ahead.running) executed ahead.unhalted
  simp only [moves, unmarked, Bool.false_eq_true, ↓reduceIte, running] at stepped
  have goesOn : GoesOn none machine.step := by
    rw [stepped]
    exact ⟨rfl, rfl⟩
  rw [runTo_of_goesOn goesOn, stepped]

/-! The parts of the program. -/

theorem runTo_quoted {text rest : List Char} (ahead : Ahead row machine (text ++ rest))
    (more : rest ≠ []) (clean : '"' ∉ text) (quoted : machine.counter.stringMode = true)
    (fuel : Nat) :
    Machine.runTo none (text.length + fuel) machine =
      Machine.runTo none fuel
        (machine.further text.length ⟨(text.map code).reverse ++ machine.stack.values⟩
          machine.output true) := by
  induction text generalizing machine with
  | nil =>
      rw [List.length_nil, Nat.zero_add, ← quoted]
      rfl
  | cons first later ih =>
      have other : code first ≠ Instruction.quote := by
        intro same
        exact clean (Scalar.code_injective same ▸ List.mem_cons_self)
      have stillClean : '"' ∉ later := fun member => clean (List.mem_cons_of_mem first member)
      have executed : machine.execute (code first) = (.ok .done,
          machine.further 0 (machine.stack.push (code first)) machine.output true) := by
        rw [execute_of_quoted quoted other, ← quoted]
        rfl
      have here := ahead.runTo (List.append_ne_nil_of_right_ne_nil later more) executed
        (later.length + fuel)
      have behind := ahead.next (machine.stack.push (code first)) machine.output true
      have there := ih behind stillClean rfl
      have stack : (later.map code).reverse ++ (machine.stack.push (code first)).values =
          ((first :: later).map code).reverse ++ machine.stack.values := by
        simp [Stack.push]
      rw [further_further, Nat.add_comm 1] at there
      rw [List.length_cons, Nat.succ_add, here, there, ← stack]
      rfl

/-- A string in quotes goes onto the stack, whatever its characters are as instructions. -/
theorem runTo_string {text rest : List Char}
    (ahead : Ahead row machine ('"' :: (text ++ '"' :: rest))) (more : rest ≠ [])
    (clean : '"' ∉ text) (unquoted : machine.counter.stringMode = false)
    (unskipped : machine.counter.skipNext = false) (fuel : Nat) :
    Machine.runTo none (text.length + 2 + fuel) machine =
      Machine.runTo none fuel
        (machine.further (text.length + 2) ⟨(text.map code).reverse ++ machine.stack.values⟩
          machine.output false) := by
  have dispatched : machine.Dispatches (code '"') .openString := by
    refine ⟨unquoted, unskipped, ?_⟩
    cases machine.extended <;> rfl
  let pushed : Stack := ⟨(text.map code).reverse ++ machine.stack.values⟩
  have opens := ahead.runTo (by simp) (execute_of_dispatches dispatched)
    (text.length + (fuel + 1))
  have opened := ahead.next machine.stack machine.output true
  have pushes := runTo_quoted opened (by simp) clean rfl (fuel + 1)
  have closing := opened.further rfl pushed machine.output true
  have closes := closing.runTo more (execute_of_closing rfl rfl) fuel
  calc
    Machine.runTo none (text.length + 2 + fuel) machine
    _ = Machine.runTo none (text.length + (fuel + 1) + 1) machine := by
        congr 1
        omega
    _ = Machine.runTo none (text.length + (fuel + 1))
          (machine.further 1 machine.stack machine.output true) := opens
    _ = Machine.runTo none (fuel + 1) ((machine.further 1 machine.stack machine.output true).further
          text.length pushed machine.output true) := pushes
    _ = Machine.runTo none fuel (((machine.further 1 machine.stack machine.output true).further
          text.length pushed machine.output true).further 1 pushed machine.output false) := closes
    _ = Machine.runTo none fuel
          (machine.further (text.length + 2) pushed machine.output false) := by
        rw [further_further, further_further, Nat.add_comm 1]

theorem execute_comma {first : Char} {later : List Char}
    (unquoted : machine.counter.stringMode = false) (unskipped : machine.counter.skipNext = false)
    (stack : machine.stack.values = code first :: later.map code) :
    machine.execute (code ',') = (.ok .done,
      machine.further 0 ⟨later.map code⟩ (machine.output.printChar first) false) := by
  have dispatched : machine.Dispatches (code ',') .printCharacter := by
    refine ⟨unquoted, unskipped, ?_⟩
    cases machine.extended <;> rfl
  have top : machine.stack.top = code first := by
    rw [Stack.top, stack]
    rfl
  have tail : machine.stack.rest = ⟨later.map code⟩ := by
    rw [Stack.rest, stack]
    rfl
  rw [execute_of_dispatches dispatched, perform, printCharacter, top, pop, tail, char?_code,
    Scalar.glyph_code, ← unquoted]
  rfl

theorem runTo_commas {text rest : List Char}
    (ahead : Ahead row machine (List.replicate text.length ',' ++ rest)) (more : rest ≠ [])
    (unquoted : machine.counter.stringMode = false) (unskipped : machine.counter.skipNext = false)
    (stack : machine.stack.values = text.map code) (fuel : Nat) :
    Machine.runTo none (text.length + fuel) machine =
      Machine.runTo none fuel
        (machine.further text.length .empty
          (machine.output.append (String.ofList text)) false) := by
  induction text generalizing machine with
  | nil =>
      have empty : machine.stack = .empty := congrArg Stack.mk stack
      have unprinted : machine.output.append (String.ofList []) = machine.output := by
        rw [Output.append, String.ofList_nil, String.append_empty]
      rw [List.length_nil, Nat.zero_add, unprinted, ← empty, ← unquoted]
      rfl
  | cons first later ih =>
      have here := ahead.runTo (List.append_ne_nil_of_right_ne_nil _ more)
        (execute_comma unquoted unskipped stack) (later.length + fuel)
      have behind := ahead.next ⟨later.map code⟩ (machine.output.printChar first) false
      have there := ih behind rfl unskipped rfl
      rw [further_further, Nat.add_comm 1] at there
      rw [List.length_cons, Nat.succ_add, here, there, ← Output.append_printChar]
      rfl

theorem Ahead.halts (ahead : Ahead row machine ['@'])
    (unquoted : machine.counter.stringMode = false)
    (unskipped : machine.counter.skipNext = false) :
    machine.step = (.ok .halted, { machine with
      counter.halted := true
      state := .halted
      steps := machine.steps + 1
      journal := machine.journal.record ⟨.completed, machine.position, machine.steps⟩ }) := by
  have value : machine.current.value = code '@' := congrArg Cell.value ahead.current
  have dispatched : machine.Dispatches machine.current.value .halt := by
    refine ⟨unquoted, unskipped, ?_⟩
    rw [value]
    cases machine.extended <;> rfl
  rw [step_of_active (active_of_running ahead.running), execute_of_dispatches dispatched]
  rfl

/-- The machine after it has printed a text and met the end of its program. -/
def printed (machine : Machine) (text : List Char) : Machine :=
  let finish := machine.further (2 * text.length + 2) .empty
    (machine.output.append (String.ofList text)) false
  { finish with
    counter.halted := true
    state := .halted
    steps := finish.steps + 1
    journal := machine.journal.record ⟨.completed, finish.position, finish.steps⟩ }

theorem runTo_printing {text : List Char}
    (ahead : Ahead row machine (ProgramText.printingRow text)) (clean : '"' ∉ text)
    (unquoted : machine.counter.stringMode = false) (unskipped : machine.counter.skipNext = false)
    (empty : machine.stack = .empty) :
    Machine.runTo none (2 * text.length + 3) machine =
      some (.ok .halted, machine.printed text) := by
  have length : ('"' :: (text.reverse ++ ['"'])).length = text.length + 2 := by simp
  have backwards : ((text.reverse.map code).reverse ++ machine.stack.values) = text.map code := by
    rw [empty, ← List.map_reverse, List.reverse_reverse]
    exact List.append_nil _
  have quotes := runTo_string ahead (by simp) (by simpa using clean) unquoted unskipped
    (text.length + 1)
  rw [List.length_reverse, backwards] at quotes
  have commas : Ahead row _ (List.replicate text.length ',' ++ ['@']) :=
    (ProgramText.printingRow_eq text ▸ ahead).further length ⟨text.map code⟩ machine.output false
  have prints := runTo_commas commas (by simp) rfl unskipped rfl 1
  have ending := commas.further List.length_replicate .empty
    (machine.output.append (String.ofList text)) false
  rw [further_further] at prints ending
  have fuel : 2 * text.length + 3 = text.length + 2 + (text.length + 1) := by omega
  have count : text.length + 2 + text.length = 2 * text.length + 2 := by omega
  rw [count] at prints ending
  rw [fuel, quotes, prints]
  exact runTo_of_stops (ending.halts rfl unskipped) nofun 0

end Along

/-- The program that prints a text does so. Any text without a quote and a line feed can be printed,
also one that is full of instructions; the program is accepted, halts after two steps for each
character and three more, and leaves nothing behind but the text and the notice of its end. Its own
text has fewer than `2 ^ 63` bytes, as every text in memory has. -/
theorem prints_text (text : String)
    (plain : ∀ character ∈ text.toList, character ≠ '"' ∧ character ≠ '\n')
    (fits : (ProgramText.printing text).utf8ByteSize < 2 ^ 63)
    (extended : Bool) (seed : UInt64) (script : List String) :
    ∃ grid, ProgramText.parse (ProgramText.printing text) = .ok grid ∧
      ∃ last, (start grid extended seed script).run none (2 * text.length + 3) =
          some (.ok .halted, last) ∧
        last.steps = 2 * text.length + 3 ∧ last.output.text = text ∧ last.stack = .empty ∧
        last.journal.notices =
          [⟨.completed, ⟨2 * text.length + 2, 0⟩, 2 * text.length + 2⟩] ∧
        last.journal.total = 1 := by
  have unquoted : '"' ∉ text.toList := fun member => (plain _ member).1 rfl
  have unfed : '\n' ∉ text.toList := fun member => (plain _ member).2 rfl
  obtain ⟨grid, read, holds⟩ := ProgramText.parse_printing unfed
  have short : (ProgramText.printingRow text.toList).length < 2 ^ 63 :=
    Nat.lt_of_le_of_lt (ProgramText.length_le_bytes _) fits
  have ahead : Ahead _ (start grid extended seed script) (ProgramText.printingRow text.toList) :=
    ⟨holds, short, rfl, rfl, rfl, rfl, rfl⟩
  have ran := runTo_printing ahead unquoted rfl rfl rfl
  have columns : 0 + (2 * text.toList.length + 2) = 2 * text.length + 2 := by
    rw [String.length_toList, Nat.zero_add]
  have printed : "" ++ String.ofList text.toList = text := by
    rw [String.ofList_toList, String.empty_append]
  rw [String.length_toList] at ran
  refine ⟨grid, read, _, ran, congrArg (· + 1) columns, printed, rfl, ?_, rfl⟩
  exact congrArg (fun column => [Notice.mk .completed ⟨column, 0⟩ column]) columns

/-- Inside the quotes the instructions that stop, skip and turn are characters as any other. -/
theorem prints_text_instructions :
    (∀ character ∈ "@#?é\r".toList, character ≠ '"' ∧ character ≠ '\n') ∧
      (ProgramText.printing "@#?é\r").utf8ByteSize < 2 ^ 63 ∧
      ∃ grid, ProgramText.parse (ProgramText.printing "@#?é\r") = .ok grid ∧
        ∃ last, (start grid true 7 []).run none 13 = some (.ok .halted, last) ∧
          last.steps = 13 ∧ last.output.text = "@#?é\r" ∧ last.stack = .empty ∧
          last.journal.notices = [⟨.completed, ⟨12, 0⟩, 12⟩] ∧ last.journal.total = 1 := by
  have plain : ∀ character ∈ "@#?é\r".toList, character ≠ '"' ∧ character ≠ '\n' := by simp
  have fits : (ProgramText.printing "@#?é\r").utf8ByteSize < 2 ^ 63 := by decide
  exact ⟨plain, fits, prints_text "@#?é\r" plain fits true 7 []⟩

end Machine

end Playfield
