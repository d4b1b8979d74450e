import IconForge.Main
import IconForge.Proofs.Generation.Paths
import IconForge.Proofs.CommandLine.DirectoryTree
import IconForge.Proofs.Imports.Binding
import IconForge.Proofs.Imports.Blocked
import IconForge.Proofs.PathData.Clauses
import IconForge.Proofs.Code.Outline
import IconForge.Proofs.Code.Steps
import IconForge.Proofs.DrawingCode.Built
import IconForge.Proofs.Generation.Bodies
import IconForge.Proofs.Generation.Initializers
import IconForge.Proofs.Generation.UsedNames
import IconForge.Proofs.Generation.Slots
import IconForge.Proofs.Generation.Spellings
import IconForge.Proofs.Generation.Independence
import IconForge.Proofs.Generation.Rejected
import IconForge.Proofs.Generation.Schedules
import IconForge.Proofs.Number.Rounding
import IconForge.Proofs.Number.Shortest
import IconForge.Proofs.Number.Literal
import IconForge.Proofs.Theme.Colors
import IconForge.Proofs.Theme.Rules
import IconForge.Proofs.Drawing.Contents
import IconForge.Proofs.Drawing.Reading
import IconForge.Proofs.DrawingCode.Calls
import IconForge.Proofs.DrawingCode.Expressions
import IconForge.Proofs.DrawingCode.Headers
import IconForge.Proofs.DrawingCode.Injective
import IconForge.Proofs.DrawingCode.Themes
import IconForge.Proofs.DrawingCode.Words
import IconForge.Proofs.Generation.Directories
import IconForge.Proofs.Imports.SimpleNames
import IconForge.Proofs.Imports.Lasting
import IconForge.Proofs.PathData.Lexing
import IconForge.Proofs.PathData.Concatenation
import IconForge.Proofs.PathData.Faults
import IconForge.Proofs.PathData.Spacing
import IconForge.Proofs.PathData.Arcs
import IconForge.Proofs.Drawing.Places
import IconForge.Proofs.DrawingCode.Nodes
import IconForge.Proofs.Drawing.Conversion
import IconForge.Proofs.Code.Quoting
import IconForge.Proofs.Code.Readings
import IconForge.Proofs.Generation.Allocation
import IconForge.Proofs.Number.FewestDigits
import IconForge.Proofs.PathData.ReadBack
import IconForge.Proofs.Imports.Aliases
import IconForge.Proofs.Theme.Shadowing
import IconForge.Proofs.CommandLine.Listings
