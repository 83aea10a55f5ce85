import Chip8.Main
import Chip8.Failure.Report
import Chip8.Random.Replay
import Chip8.Picture.Encoding
import Chip8.Picture.View
import Chip8.Console.Folder
import Chip8.Proofs.CallStack
import Chip8.Proofs.Invariant
import Chip8.Proofs.KeyWait
import Chip8.Proofs.Sound
import Chip8.Proofs.Console
import Chip8.Proofs.Isolation
import Chip8.Proofs.Glyphs
import Chip8.Proofs.Reload
import Chip8.Proofs.Composition
import Chip8.Proofs.Renewal
import Chip8.Proofs.Halt
import Chip8.Proofs.Decay
import Chip8.Proofs.Drawing
import Chip8.Proofs.Transfer
import Chip8.Proofs.Overlay
import Chip8.Proofs.RoundTrip
import Chip8.Proofs.WriteSet
import Chip8.Proofs.Loading
import Chip8.Proofs.Return
import Chip8.Proofs.Beep
import Chip8.Proofs.Idle
import Chip8.Proofs.Arithmetic
import Chip8.Proofs.Draws
import Chip8.Proofs.TickCount
import Chip8.Proofs.IndexSum
import Chip8.Proofs.Keys
import Chip8.Proofs.Rendering
