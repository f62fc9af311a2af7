import HeapSampler.Main
import HeapSampler.Proofs.Acts
import HeapSampler.Proofs.Snapshot.Course
import HeapSampler.Proofs.Snapshot.Order
import HeapSampler.Proofs.Snapshot.Recording
import HeapSampler.Proofs.Transition.Schedule
import HeapSampler.Proofs.Run.Course
import HeapSampler.Proofs.Run.Start
import HeapSampler.Proofs.Run.Thawed
import HeapSampler.Proofs.Run.Tally
import HeapSampler.Proofs.Run.Artifacts
import HeapSampler.Proofs.Run.Turns
import HeapSampler.Proofs.Run.Requests
import HeapSampler.Proofs.Run.Stopping
import HeapSampler.Proofs.Files
import HeapSampler.Proofs.Run.WindUp
import HeapSampler.Proofs.Settings.Layers
import HeapSampler.Proofs.Run.Answers
import HeapSampler.Proofs.Places
import HeapSampler.Proofs.Groups
import HeapSampler.Proofs.Run.FailedStart
import HeapSampler.Proofs.Run.Heeded
import HeapSampler.Proofs.Run.Pace
import HeapSampler.Proofs.Text.Decimal
import HeapSampler.Proofs.Text.Utf8
import HeapSampler.Proofs.Paths
import HeapSampler.Proofs.Hierarchies
import HeapSampler.Proofs.Toml.Quoted
import HeapSampler.Proofs.Toml.Lines
import HeapSampler.Proofs.Settings.Saved
import HeapSampler.Proofs.Toml.Tables
import HeapSampler.Proofs.ExitStatus
import HeapSampler.Proofs.Transition.Rounds
import HeapSampler.Proofs.Heap.PageWords
import HeapSampler.Proofs.Heap.Classification
import HeapSampler.Proofs.Settings.Spelling
import HeapSampler.Proofs.Toml.Reread
import HeapSampler.Proofs.CommandLine.MemoryLimit
import HeapSampler.Proofs.Settings.SingleFile
import HeapSampler.Proofs.Json.RoundTrip
import HeapSampler.Proofs.Run.SummaryFile
import HeapSampler.Proofs.Subject.Interposer
import HeapSampler.Proofs.CommandLine.Command
import HeapSampler.Proofs.Heap.ReadBack
import HeapSampler.Proofs.Toml.Building
import HeapSampler.Proofs.Toml.Numbers
import HeapSampler.Proofs.Settings.Durations
import HeapSampler.Proofs.Run.Deadlines
import HeapSampler.Proofs.Subject.Placeholder
import HeapSampler.Proofs.Mounts
import HeapSampler.Proofs.Heap.PageNumbers
import HeapSampler.Proofs.Signals
