import Inlay.CommandLine
import Inlay.Engine.Scripted
import Inlay.Log
import Inlay.Main
import Inlay.Files.Glob.Brackets
import Inlay.Files.Glob.Reader
import Inlay.Proofs.Reextraction
import Inlay.Proofs.Strings
import Inlay.Proofs.Restoring
import Inlay.Proofs.Agreement
import Inlay.Proofs.Breaks
import Inlay.Proofs.Shifting
import Inlay.Proofs.Detabbing
import Inlay.Proofs.Editing
import Inlay.Proofs.HostLines
import Inlay.Proofs.Slots
import Inlay.Proofs.Batches
import Inlay.Proofs.Changes
import Inlay.Proofs.Acceptance
import Inlay.Proofs.Places
import Inlay.Proofs.Exits
import Inlay.Proofs.Resting
import Inlay.Proofs.Spelling
import Inlay.Proofs.Extents
import Inlay.Proofs.Nesting
import Inlay.Proofs.Lockstep
import Inlay.Proofs.Positions
import Inlay.Proofs.Cutting
import Inlay.Proofs.Tokens
import Inlay.Proofs.Crossings
import Inlay.Proofs.NormalForm
import Inlay.Proofs.WrittenReports
import Inlay.Proofs.Excerpts
import Inlay.Proofs.Attachments
import Inlay.Proofs.Inputs
import Inlay.Proofs.Layers
import Inlay.Proofs.Collecting
import Inlay.Proofs.Replacing
import Inlay.Proofs.Sharing
import Inlay.Proofs.Listing
