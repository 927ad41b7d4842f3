import ChipEight.Attempt
import ChipEight.CommandLine
import ChipEight.CommandLine.Numeral
import ChipEight.CommandLine.Usage
import ChipEight.CommandLine.Word
import ChipEight.Console
import ChipEight.Fault
import ChipEight.Font
import ChipEight.Hardware
import ChipEight.Journal
import ChipEight.Keyboard
import ChipEight.Keypad
import ChipEight.Launch
import ChipEight.Machine
import ChipEight.Machine.Event
import ChipEight.Main
import ChipEight.Memory
import ChipEight.Memory.Span
import ChipEight.Nibble
import ChipEight.Operation
import ChipEight.Operation.Decode
import ChipEight.Operation.Effect
import ChipEight.Options
import ChipEight.Proofs.Attempt
import ChipEight.Proofs.CommandLine.Numeral
import ChipEight.Proofs.CommandLine.Pace
import ChipEight.Proofs.CommandLine.Reading
import ChipEight.Proofs.CommandLine.Sentence
import ChipEight.Proofs.CommandLine.Word
import ChipEight.Proofs.Console.Picture
import ChipEight.Proofs.Machine.Await
import ChipEight.Proofs.Machine.Calls
import ChipEight.Proofs.Machine.Course
import ChipEight.Proofs.Machine.Cycle
import ChipEight.Proofs.Machine.Flow
import ChipEight.Proofs.Machine.Frames
import ChipEight.Proofs.Machine.Halt
import ChipEight.Proofs.Machine.Journal
import ChipEight.Proofs.Machine.Keys
import ChipEight.Proofs.Machine.Latch
import ChipEight.Proofs.Machine.Load
import ChipEight.Proofs.Machine.Output
import ChipEight.Proofs.Machine.Redraw
import ChipEight.Proofs.Machine.Restart
import ChipEight.Proofs.Machine.Rolls
import ChipEight.Proofs.Machine.Service
import ChipEight.Proofs.Machine.Simulation
import ChipEight.Proofs.Machine.Sound
import ChipEight.Proofs.Machine.Stores
import ChipEight.Proofs.Machine.Timers
import ChipEight.Proofs.Memory.Range
import ChipEight.Proofs.Operation.Addition
import ChipEight.Proofs.Operation.Arithmetic
import ChipEight.Proofs.Operation.Code
import ChipEight.Proofs.Operation.Control
import ChipEight.Proofs.Operation.Footprint
import ChipEight.Proofs.Operation.Obstacle
import ChipEight.Proofs.Operation.Patch
import ChipEight.Proofs.Operation.Reckoning
import ChipEight.Proofs.Operation.Success
import ChipEight.Proofs.Operation.Transfer
import ChipEight.Proofs.ReturnStack.Listing
import ChipEight.Proofs.Rom.Source
import ChipEight.Proofs.Screen.Count
import ChipEight.Proofs.Screen.Draw
import ChipEight.Proofs.Screen.Erasure
import ChipEight.Proofs.Terminal.Layer
import ChipEight.Random
import ChipEight.Random.ChaCha
import ChipEight.Registers
import ChipEight.ReturnStack
import ChipEight.Rom
import ChipEight.Rom.Name
import ChipEight.Rom.Source
import ChipEight.Screen
import ChipEight.Terminal.Image
import ChipEight.Terminal.Strip
import ChipEight.Text.Cluster
import ChipEight.Text.Hexadecimal
import ChipEight.Text.Ligature
import ChipEight.Text.Line
import ChipEight.Text.Mark
import ChipEight.Text.Measure
import ChipEight.Text.Pictograph
import ChipEight.Text.Ranges
import ChipEight.Text.Width
