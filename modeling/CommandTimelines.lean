import CommandTimelines.Main
import CommandTimelines.Session
import CommandTimelines.Proofs.Change
import CommandTimelines.Proofs.Operation
import CommandTimelines.Proofs.Interleaving
import CommandTimelines.Proofs.History
import CommandTimelines.Proofs.Cells
import CommandTimelines.Proofs.Timeline
import CommandTimelines.Proofs.Sorting
import CommandTimelines.Proofs.Lifecycle
import CommandTimelines.Proofs.Completion
import CommandTimelines.Proofs.Ending
import CommandTimelines.Proofs.Body
import CommandTimelines.Proofs.CleanUp
import CommandTimelines.Proofs.Rendering
import CommandTimelines.Proofs.Starting
import CommandTimelines.Proofs.Concurrence
import CommandTimelines.Proofs.Stopping
import CommandTimelines.Proofs.Agreement
import CommandTimelines.Proofs.Erasure
import CommandTimelines.Proofs.Lines
import CommandTimelines.Proofs.Numbering
import CommandTimelines.Proofs.Layout
import CommandTimelines.Proofs.Header
import CommandTimelines.Proofs.Arguments
import CommandTimelines.Proofs.Spelling
import CommandTimelines.Proofs.Calls
import CommandTimelines.Proofs.Console
import CommandTimelines.Proofs.Punctual
import CommandTimelines.Proofs.Pace
import CommandTimelines.Proofs.Timing
import CommandTimelines.Proofs.Indifference
import CommandTimelines.Proofs.Mirroring
import CommandTimelines.Proofs.Edits
import CommandTimelines.Proofs.Placeholders
import CommandTimelines.Proofs.Readdressing
import CommandTimelines.Proofs.Respelling
import CommandTimelines.Proofs.Inquiries
import CommandTimelines.Proofs.Grants
import CommandTimelines.Proofs.Handles
import CommandTimelines.Proofs.Actions
import CommandTimelines.Proofs.Inertness
import CommandTimelines.Proofs.Omission
import CommandTimelines.Proofs.Separation
import CommandTimelines.Proofs.Succession
import CommandTimelines.Proofs.Independence
import CommandTimelines.Proofs.Faults
import CommandTimelines.Proofs.Cutting
import CommandTimelines.Proofs.Quotation
import CommandTimelines.Proofs.Pardon
import CommandTimelines.Proofs.Failures
import CommandTimelines.Proofs.Queue
import CommandTimelines.Proofs.Dealings
import CommandTimelines.Proofs.Surplus
import CommandTimelines.Proofs.Refusal
import CommandTimelines.Proofs.Identifiers
import CommandTimelines.Proofs.LetterCase
import CommandTimelines.Proofs.Access
import CommandTimelines.Proofs.Waits
import CommandTimelines.Proofs.Sparing
import CommandTimelines.Proofs.Winding
import CommandTimelines.Proofs.Sweeping
import CommandTimelines.Proofs.Comments
import CommandTimelines.Proofs.Directives
import CommandTimelines.Proofs.Naming
