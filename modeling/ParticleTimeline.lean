import ParticleTimeline.Main
import ParticleTimeline.Storage.Memory
import ParticleTimeline.Trace.State
import ParticleTimeline.Proofs.Draw.Command
import ParticleTimeline.Proofs.Draw.Waits
import ParticleTimeline.Proofs.Draw.Declarations
import ParticleTimeline.Proofs.Effect.BuiltIn
import ParticleTimeline.Proofs.Draw.Isolation
import ParticleTimeline.Proofs.Draw.Hooks
import ParticleTimeline.Proofs.Render.Operation
import ParticleTimeline.Proofs.Render.Teardown
import ParticleTimeline.Proofs.Render.Rebuild
import ParticleTimeline.Proofs.Render.Slots
import ParticleTimeline.Proofs.Render.Screen
import ParticleTimeline.Proofs.Render.Exposure
import ParticleTimeline.Proofs.Render.Sizes
import ParticleTimeline.Proofs.Render.Contents
import ParticleTimeline.Proofs.Glsl.Braces
import ParticleTimeline.Proofs.Effect.Tidy
import ParticleTimeline.Proofs.Draw.Guarded
import ParticleTimeline.Proofs.Draw.Failures
import ParticleTimeline.Proofs.Draw.Frames
import ParticleTimeline.Proofs.Json.FreeForm
import ParticleTimeline.Proofs.Render.Calls
import ParticleTimeline.Proofs.Render.Reports
import ParticleTimeline.Proofs.Json.Numbers
import ParticleTimeline.Proofs.Json.Strings
import ParticleTimeline.Proofs.Timeline.Document
import ParticleTimeline.Proofs.Number.Finite
import ParticleTimeline.Proofs.Json.Reading
import ParticleTimeline.Proofs.Timeline.Reload
import ParticleTimeline.Proofs.Clock.Events
import ParticleTimeline.Proofs.Clock.Pauses
import ParticleTimeline.Proofs.Clock.Rounds
import ParticleTimeline.Proofs.Render.Exchange
import ParticleTimeline.Proofs.Form.Loading
import ParticleTimeline.Proofs.Effect.Agreement
import ParticleTimeline.Proofs.Clock.Range
import ParticleTimeline.Proofs.Clock.Overflow
import ParticleTimeline.Proofs.Render.Refusal
import ParticleTimeline.Proofs.Draw.Slot
import ParticleTimeline.Proofs.Draw.Course
import ParticleTimeline.Proofs.Draw.Dimensions
import ParticleTimeline.Proofs.Render.Dimensions
import ParticleTimeline.Proofs.Timeline.Validity
import ParticleTimeline.Proofs.Render.Budget
import ParticleTimeline.Proofs.Draw.Identifiers
import ParticleTimeline.Proofs.Json.Record
import ParticleTimeline.Proofs.Timeline.Entries
import ParticleTimeline.Proofs.Timeline.Spelling
import ParticleTimeline.Proofs.Draw.Literals
import ParticleTimeline.Proofs.Particle.Sampling
import ParticleTimeline.Proofs.Particle.Hue
import ParticleTimeline.Proofs.Glsl.Nesting
