import Chip8.Main
import Chip8.Proofs.Instruction.Encoding
import Chip8.Proofs.Machine.Effect
import Chip8.Proofs.Machine.Cycle
import Chip8.Proofs.Machine.Loading
import Chip8.Proofs.Machine.Failures
import Chip8.Proofs.Machine.Operations
import Chip8.Proofs.Machine.Subroutines
import Chip8.Proofs.Machine.KeyWait
import Chip8.Proofs.Action
import Chip8.Proofs.Framebuffer.Updates
import Chip8.Proofs.Host.ExactTime
import Chip8.Proofs.Machine.Picture
import Chip8.Proofs.Host.Timers
import Chip8.Proofs.Host.Iteration
import Chip8.Proofs.Host.Counters
import Chip8.Proofs.Host.Pictures
import Chip8.Proofs.Host.Recording
import Chip8.Proofs.Host.Tasks
import Chip8.Proofs.Host.Schedule
import Chip8.Proofs.Machine.ControlFlow
import Chip8.Proofs.Machine.Twins
import Chip8.Proofs.Machine.Frame
import Chip8.Proofs.Machine.Tracing
import Chip8.Proofs.Machine.Restart
import Chip8.Proofs.Machine.Interleaving
import Chip8.Proofs.Machine.Dump
import Chip8.Proofs.Input.Holds
import Chip8.Proofs.Input.Reads
import Chip8.Proofs.Input.Relay
import Chip8.Proofs.Input.Presses
import Chip8.Proofs.Display.Systems
import Chip8.Proofs.Display.Showing
import Chip8.Proofs.Session.Closing
import Chip8.Proofs.Display.Pad
import Chip8.Proofs.Display.Terminal
import Chip8.Proofs.FrontEnd
import Chip8.Proofs.Machine.Font
import Chip8.Proofs.Machine.Variants
import Chip8.Proofs.Framebuffer.Sprites
import Chip8.Proofs.Framebuffer.Drawings
import Chip8.Proofs.Machine.Drawing
import Chip8.Proofs.Machine.Straight
import Chip8.Proofs.Machine.Arithmetic
import Chip8.Proofs.Machine.RegisterBlocks
import Chip8.Proofs.Memory.Writes
import Chip8.Proofs.Machine.Image
import Chip8.Proofs.Keymap.Characters
import Chip8.Proofs.Machine.KeyReleases
import Chip8.Proofs.Input.Window
