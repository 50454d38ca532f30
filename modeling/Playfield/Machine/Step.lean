import Playfield.Machine.Execute

/-!
Stepping. A step executes the cell under the counter and moves on; a run repeats steps until
the machine is no longer running or enough instructions are completed.
-/

namespace Playfield

abbrev StepResult := Except ArithmeticFault RunState

namespace Machine

def resume (machine : Machine) : Machine :=
  match machine.state with
  | .paused => { machine with state := .running }
  | _ => machine

def supply (machine : Machine) (reply : String) : Machine :=
  let machine := { machine with replies := machine.replies.supply reply }
  match machine.state with
  | .awaiting _ => { machine with state := .running }
  | _ => machine

/-- The end of a step that completed its instruction. A breakpoint counts for the cell that the
counter arrives at. -/
def complete (machine : Machine) : Machine :=
  let machine := { machine with steps := machine.steps + 1 }
  if machine.counter.halted then
    { machine with state := .halted }
  else
    let machine := machine.advance
    { machine with state := if machine.current.breakpoint then .paused else .running }

def stop (machine : Machine) (fault : ArithmeticFault) : Machine :=
  { machine with
    counter.halted := true
    state := .halted
    steps := machine.steps + 1 }.note (.fault fault.operator)

/-- Executes the cell under the counter. A paused or halted machine is left as it is; a
suspended instruction is tried again and counts only once it is completed. -/
def step (machine : Machine) : StepResult × Machine :=
  match machine.state with
  | .paused => (.ok .paused, machine)
  | .halted => (.ok .halted, machine)
  | _ =>
      let executed := machine.execute machine.current.value
      match executed.1 with
      | .ok .done => (.ok executed.2.complete.state, executed.2.complete)
      | .ok (.suspended request) =>
          (.ok (.awaiting request), { executed.2 with state := .awaiting request })
      | .error fault => (.error fault, executed.2.stop fault)

/-- Steps until the machine is no longer running or has completed `goal` instructions, if there
is a goal; nothing if that takes more than `fuel` steps. -/
def runTo (goal : Option Nat) : Nat → Machine → Option (StepResult × Machine)
  | 0, _ => none
  | fuel + 1, machine =>
      let stepped := machine.step
      match stepped.1 with
      | .ok .running =>
          if goal.any (· ≤ stepped.2.steps) then some stepped else runTo goal fuel stepped.2
      | _ => some stepped

def run (machine : Machine) (limit : Option Nat) (fuel : Nat) : Option (StepResult × Machine) :=
  runTo (limit.map (machine.steps + ·)) fuel machine

end Machine

end Playfield
