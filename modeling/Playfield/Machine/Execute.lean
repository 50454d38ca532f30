import Playfield.Machine.Basic

/-!
The effect of one cell. Executing a value never moves the counter and never counts as a step;
both belong to stepping.
-/

namespace Playfield

inductive Flow where
  | done
  /-- No usable reply is there; the instruction has to be tried again. -/
  | suspended (request : Request)
  deriving DecidableEq

namespace Machine

/-- The right operand is on top. A divisor of zero leaves both operands popped. -/
def calculate (machine : Machine) (operator : Operator) : Except ArithmeticFault Flow × Machine :=
  let b := machine.stack.top
  let a := machine.stack.rest.top
  match operator.apply a b with
  | some result => (.ok .done, machine.pop.pop.push result)
  | none => (.error ⟨operator, machine.position⟩, machine.pop.pop)

def printCharacter (machine : Machine) : Machine :=
  let value := machine.stack.top
  let machine := machine.pop
  let machine :=
    if (Scalar.char? value).isSome then machine else machine.note (.unprintable value)
  { machine with output := machine.output.printChar (Scalar.glyph value) }

def read (machine : Machine) (request : Request) : Flow × Machine :=
  let taken := machine.replies.take request
  let machine := taken.refused.foldl
    (fun machine reply => machine.note (.malformedReply request reply))
    { machine with replies := taken.rest }
  match taken.found with
  | some (reply, value) =>
      let machine :=
        if request.hasSurplus reply then machine.note (.surplusCharacters reply) else machine
      (.done, machine.push value)
  | none => (.suspended request, machine)

def target (machine : Machine) : Position :=
  machine.grid.wrapPosition machine.stack.rest.top.toInt machine.stack.top.toInt

def perform (machine : Machine) : Instruction → Except ArithmeticFault Flow × Machine
  | .literal value => (.ok .done, machine.push value)
  | .arithmetic operator => machine.calculate operator
  | .isZero => (.ok .done, machine.pop.push (if machine.stack.top = 0 then 1 else 0))
  | .greater =>
      let b := machine.stack.top
      let a := machine.stack.rest.top
      (.ok .done, machine.pop.pop.push (if b < a then 1 else 0))
  | .go heading => (.ok .done, machine.turn heading)
  | .goRandom =>
      let drawn := machine.generator.heading
      (.ok .done, { machine with generator := drawn.2 }.turn drawn.1)
  | .branchHorizontal =>
      (.ok .done, machine.pop.turn (if machine.stack.top = 0 then .left else .right))
  | .branchVertical =>
      (.ok .done, machine.pop.turn (if machine.stack.top = 0 then .up else .down))
  | .duplicate => (.ok .done, (machine.pop.push machine.stack.top).push machine.stack.top)
  | .discard => (.ok .done, machine.pop)
  | .printNumber =>
      (.ok .done,
        { machine.pop with output := machine.output.printNumber machine.stack.top })
  | .printCharacter => (.ok .done, machine.printCharacter)
  | .read request =>
      let reading := machine.read request
      (.ok reading.1, reading.2)
  | .get => (.ok .done, machine.pop.pop.push (machine.grid.cell machine.target).value)
  | .put =>
      let value := machine.stack.rest.rest.top
      (.ok .done,
        { machine.pop.pop.pop with grid := machine.grid.setValue machine.target value })
  | .openString => (.ok .done, { machine with counter.stringMode := true })
  | .bridge => (.ok .done, { machine with counter.skipNext := true })
  | .pass => (.ok .done, machine)
  | .halt => (.ok .done, { machine with counter.halted := true }.note .completed)

/-- The effect of a cell value. String mode comes before skipping, and skipping before decoding. -/
def execute (machine : Machine) (value : Int64) : Except ArithmeticFault Flow × Machine :=
  if machine.counter.stringMode then
    if value = Instruction.quote then
      (.ok .done, { machine with counter.stringMode := false })
    else
      (.ok .done, machine.push value)
  else if machine.counter.skipNext then
    (.ok .done, { machine with counter.skipNext := false })
  else
    match Instruction.decode machine.extended value with
    | some instruction => machine.perform instruction
    | none => (.ok .done, machine.note (.invalidInstruction value))

end Machine

end Playfield
