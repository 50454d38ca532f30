import Playfield.Main
import Playfield.Session.Frame
import Playfield.Proofs.Grid
import Playfield.Proofs.Execution
import Playfield.Proofs.Invariant
import Playfield.Proofs.Congruence
import Playfield.Proofs.Breakpoints
import Playfield.Proofs.Pooling
import Playfield.Proofs.ReplyTiming
import Playfield.Proofs.Events
import Playfield.Proofs.Interactive
import Playfield.Proofs.History
import Playfield.Proofs.Lockstep
import Playfield.Proofs.ZerosBeneath
import Playfield.Proofs.Lines
import Playfield.Proofs.Log
import Playfield.Proofs.Rows
import Playfield.Proofs.InputLines
import Playfield.Proofs.ProgramText
import Playfield.Proofs.Headless
import Playfield.Proofs.Instructions
import Playfield.Proofs.Consumption
import Playfield.Proofs.RandomTurns
import Playfield.Proofs.Editing
import Playfield.Proofs.Scheduling
import Playfield.Proofs.Faults
import Playfield.Proofs.Reading
import Playfield.Proofs.Rectangles
import Playfield.Proofs.Printing
import Playfield.Proofs.Endings
import Playfield.Proofs.Torus
import Playfield.Proofs.Draining
import Playfield.Proofs.LimitedRuns
import Playfield.Proofs.Entries
import Playfield.Proofs.Numerals
import Playfield.Proofs.Settings
import Playfield.Proofs.Arithmetic
import Playfield.Proofs.Travel
import Playfield.Proofs.Updates
import Playfield.Proofs.StatusLine
import Playfield.Proofs.Chunks
import Playfield.Proofs.Pictures
import Playfield.Proofs.StackValues
import Playfield.Proofs.Viewport
import Playfield.Proofs.Sampling
