import CommandShell.Main
import CommandShell.Programs.Sample
import CommandShell.Programs.Amount
import CommandShell.Programs.Lines.Copies
import CommandShell.Programs.Lines.Counts
import CommandShell.Programs.Lines.Layout
import CommandShell.Programs.Lines.Neighbours
import CommandShell.Programs.Lines.Parts
import CommandShell.Programs.Folders.Owners
import CommandShell.Programs.Folders.Room
import CommandShell.Programs.Folders.Temporary
import CommandShell.Proofs.Grammar
import CommandShell.Proofs.Positions
import CommandShell.Proofs.Dispatch
import CommandShell.Proofs.Course
import CommandShell.Proofs.Handles
import CommandShell.Proofs.Composition
import CommandShell.Proofs.Planning
import CommandShell.Proofs.Joining
import CommandShell.Proofs.Effects
import CommandShell.Proofs.Endings
import CommandShell.Proofs.Targets
import CommandShell.Proofs.Escapes
import CommandShell.Proofs.Rereading
import CommandShell.Proofs.Unreadable
import CommandShell.Proofs.Placement
import CommandShell.Proofs.Contents
import CommandShell.Proofs.Sourceless
import CommandShell.Proofs.Redirecting
import CommandShell.Proofs.Shapes
import CommandShell.Proofs.Leaves
import CommandShell.Proofs.Recording
import CommandShell.Proofs.Storing
import CommandShell.Proofs.Sessions
import CommandShell.Proofs.Recalling
import CommandShell.Proofs.Reaping
import CommandShell.Proofs.Refusals
import CommandShell.Proofs.Prompting
import CommandShell.Proofs.Sites
import CommandShell.Proofs.Saving
import CommandShell.Proofs.Lines
import CommandShell.Proofs.Reports
import CommandShell.Proofs.Forgiven
import CommandShell.Proofs.Departures
import CommandShell.Proofs.Diagnostics
import CommandShell.Proofs.Apart
import CommandShell.Proofs.Windows
import CommandShell.Proofs.Tidiness
import CommandShell.Proofs.Capacity
import CommandShell.Proofs.Restoring
import CommandShell.Proofs.Interchange
import CommandShell.Proofs.Sides
import CommandShell.Proofs.ProgramNames
import CommandShell.Proofs.Lookups
import CommandShell.Proofs.Moving
import CommandShell.Proofs.Quoting
import CommandShell.Proofs.Rendering
import CommandShell.Proofs.FolderEntries
import CommandShell.Proofs.Completing
import CommandShell.Proofs.Narrowing
import CommandShell.Proofs.Locality
import CommandShell.Proofs.Descriptions
import CommandShell.Proofs.Preparing
import CommandShell.Proofs.FirstPrompt
