import CxxWriter.Log.Display
import CxxWriter.Main
import CxxWriter.Proofs.Config
import CxxWriter.Proofs.Growth
import CxxWriter.Proofs.Scopes
import CxxWriter.Proofs.Written
import CxxWriter.Script
import CxxWriter.Proofs.Lines
import CxxWriter.Proofs.Block
import CxxWriter.Proofs.Layout
import CxxWriter.Proofs.Listing
import CxxWriter.Proofs.Events
import CxxWriter.Proofs.Kinship
import CxxWriter.Proofs.Twin
import CxxWriter.Proofs.Unit
import CxxWriter.Proofs.Piece
import CxxWriter.Proofs.Output
import CxxWriter.Proofs.Shift
import CxxWriter.Proofs.StringValue
import CxxWriter.Proofs.Tidy
import CxxWriter.Proofs.Respaced
import CxxWriter.Proofs.Nesting
import CxxWriter.Proofs.Indentation
import CxxWriter.Proofs.Merge
import CxxWriter.Proofs.Plain
import CxxWriter.Proofs.Styles
import CxxWriter.Proofs.Guard
import CxxWriter.Proofs.Repetition
import CxxWriter.Proofs.Normal
import CxxWriter.Proofs.Tabs
import CxxWriter.Proofs.Assignment
import CxxWriter.Proofs.Rejection
import CxxWriter.Proofs.Declaration
import CxxWriter.Proofs.Formatted
import CxxWriter.Proofs.Members
import CxxWriter.Proofs.ValueMargin
import CxxWriter.Proofs.Comment
import CxxWriter.Proofs.Renderings
import CxxWriter.Proofs.Lookup
import CxxWriter.Proofs.Variables
import CxxWriter.Proofs.Saved
import CxxWriter.Proofs.SourceFile
import CxxWriter.Proofs.NameWords
