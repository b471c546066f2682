import LedAnimation.Main
import LedAnimation.Sink.Strip
import LedAnimation.Proofs.Effect.Orientation
import LedAnimation.Proofs.Effect.Streams
import LedAnimation.Proofs.Compilation.Blocks
import LedAnimation.Proofs.Compilation.Faults
import LedAnimation.Proofs.Effect.Reliability
import LedAnimation.Proofs.Schedule.Pacing
import LedAnimation.Proofs.Schedule.Bursts
import LedAnimation.Proofs.Schedule.Restarts
import LedAnimation.Proofs.Intents.Delivery
import LedAnimation.Proofs.Schedule.Output
import LedAnimation.Proofs.Effect.Thunder
import LedAnimation.Proofs.Effect.Reachable
import LedAnimation.Proofs.Color.Shifts
import LedAnimation.Proofs.Color.Settling
import LedAnimation.Proofs.Compilation.Draws
import LedAnimation.Proofs.Compilation.Pixels
import LedAnimation.Proofs.Compilation.Parts
import LedAnimation.Proofs.Playback.Accounts
import LedAnimation.Proofs.Playback.Stills
import LedAnimation.Proofs.Intents.Batches
import LedAnimation.Proofs.Sprites
import LedAnimation.Proofs.Sinks
import LedAnimation.Proofs.Stacks
import LedAnimation.Proofs.Preview.Outcomes
import LedAnimation.Proofs.Preview.Spelling
import LedAnimation.Proofs.Preview.Consistency
