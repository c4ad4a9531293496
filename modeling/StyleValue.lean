import StyleValue.Editor
import StyleValue.Main
import StyleValue.Proofs.Acceptance
import StyleValue.Proofs.Agreement
import StyleValue.Proofs.Blame
import StyleValue.Proofs.Boundaries
import StyleValue.Proofs.Buffers
import StyleValue.Proofs.Coalescing
import StyleValue.Proofs.Completeness
import StyleValue.Proofs.Cursor
import StyleValue.Proofs.Derivability
import StyleValue.Proofs.Descent
import StyleValue.Proofs.Diagnostics
import StyleValue.Proofs.Dumps
import StyleValue.Proofs.Encoding
import StyleValue.Proofs.Endings
import StyleValue.Proofs.Entrances
import StyleValue.Proofs.Excerpts
import StyleValue.Proofs.Extents
import StyleValue.Proofs.Files
import StyleValue.Proofs.FirstFault
import StyleValue.Proofs.Frontier
import StyleValue.Proofs.Grammar
import StyleValue.Proofs.Joining
import StyleValue.Proofs.LineBreaks
import StyleValue.Proofs.Lines
import StyleValue.Proofs.Literals
import StyleValue.Proofs.LongestMatch
import StyleValue.Proofs.Nesting
import StyleValue.Proofs.Numerals
import StyleValue.Proofs.Outcomes
import StyleValue.Proofs.Outlines
import StyleValue.Proofs.Padding
import StyleValue.Proofs.Parts
import StyleValue.Proofs.Places
import StyleValue.Proofs.Printing
import StyleValue.Proofs.Programs
import StyleValue.Proofs.Progress
import StyleValue.Proofs.Quotations
import StyleValue.Proofs.Quoting
import StyleValue.Proofs.Readers
import StyleValue.Proofs.Reading
import StyleValue.Proofs.Recasting
import StyleValue.Proofs.Records
import StyleValue.Proofs.Relocation
import StyleValue.Proofs.Reparse
import StyleValue.Proofs.RoundTrip
import StyleValue.Proofs.Rows
import StyleValue.Proofs.Seams
import StyleValue.Proofs.Sequences
import StyleValue.Proofs.Signs
import StyleValue.Proofs.Slices
import StyleValue.Proofs.Sources
import StyleValue.Proofs.Spelling
import StyleValue.Proofs.Standing
import StyleValue.Proofs.Tiling
import StyleValue.Proofs.Transcripts
import StyleValue.Proofs.Viability
import StyleValue.Proofs.Walks
