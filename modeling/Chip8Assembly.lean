import Chip8Assembly.Address
import Chip8Assembly.Command.Assembly
import Chip8Assembly.Command.Disassembly
import Chip8Assembly.Command.Script
import Chip8Assembly.Dialect
import Chip8Assembly.Event
import Chip8Assembly.Fault
import Chip8Assembly.FileSystem
import Chip8Assembly.Image
import Chip8Assembly.Instruction
import Chip8Assembly.Json.Literal
import Chip8Assembly.Json.Reading
import Chip8Assembly.Json.Record
import Chip8Assembly.Json.Value
import Chip8Assembly.Listing
import Chip8Assembly.Main
import Chip8Assembly.Operand
import Chip8Assembly.Program
import Chip8Assembly.Proofs.Addresses
import Chip8Assembly.Proofs.Classification
import Chip8Assembly.Proofs.Clipping
import Chip8Assembly.Proofs.Commands
import Chip8Assembly.Proofs.Concatenation
import Chip8Assembly.Proofs.Decoding
import Chip8Assembly.Proofs.Digits
import Chip8Assembly.Proofs.Effects
import Chip8Assembly.Proofs.Encoding
import Chip8Assembly.Proofs.Fields
import Chip8Assembly.Proofs.Files
import Chip8Assembly.Proofs.Formatting
import Chip8Assembly.Proofs.Grammar
import Chip8Assembly.Proofs.Json
import Chip8Assembly.Proofs.Layout
import Chip8Assembly.Proofs.Lines
import Chip8Assembly.Proofs.ListingText
import Chip8Assembly.Proofs.Listings
import Chip8Assembly.Proofs.Loading
import Chip8Assembly.Proofs.Notes
import Chip8Assembly.Proofs.Numerals
import Chip8Assembly.Proofs.Omission
import Chip8Assembly.Proofs.Outcomes
import Chip8Assembly.Proofs.Pieces
import Chip8Assembly.Proofs.Precedence
import Chip8Assembly.Proofs.Ranges
import Chip8Assembly.Proofs.ReadBack
import Chip8Assembly.Proofs.Reassembly
import Chip8Assembly.Proofs.Rendering
import Chip8Assembly.Proofs.Sameness
import Chip8Assembly.Proofs.Scripts
import Chip8Assembly.Proofs.Sessions
import Chip8Assembly.Proofs.Slices
import Chip8Assembly.Proofs.Slots
import Chip8Assembly.Proofs.Streams
import Chip8Assembly.Proofs.Strictness
import Chip8Assembly.Proofs.Table
import Chip8Assembly.Proofs.Tokens
import Chip8Assembly.Proofs.ToolChain
import Chip8Assembly.Rule
import Chip8Assembly.Session
import Chip8Assembly.Shape
import Chip8Assembly.Statement
import Chip8Assembly.Statement.Reading
import Chip8Assembly.Text.Blank
import Chip8Assembly.Text.Lines
import Chip8Assembly.Text.Numeral
import Chip8Assembly.Text.Quoted
import Chip8Assembly.Text.Unprintable
import Chip8Assembly.Text.Utf8
import Chip8Assembly.Traced
import Chip8Assembly.Word
