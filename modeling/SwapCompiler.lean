import SwapCompiler.Main
import SwapCompiler.Payload.Reader
import SwapCompiler.Service
import SwapCompiler.Settings
import SwapCompiler.Proofs.Bytes.Search
import SwapCompiler.Proofs.Bytes.Words
import SwapCompiler.Proofs.Outcome
import SwapCompiler.Proofs.Payload.Framing
import SwapCompiler.Proofs.Address
import SwapCompiler.Proofs.Header
import SwapCompiler.Proofs.Plan
import SwapCompiler.Proofs.Call
import SwapCompiler.Proofs.Patch
import SwapCompiler.Proofs.Assembly
import SwapCompiler.Proofs.Payload.Frames
import SwapCompiler.Proofs.Compiler
import SwapCompiler.Proofs.Contents
import SwapCompiler.Proofs.CleanUp
import SwapCompiler.Proofs.Binary64
import SwapCompiler.Proofs.Decimal
import SwapCompiler.Proofs.Decimal.Shortest
import SwapCompiler.Proofs.Percentage
import SwapCompiler.Proofs.Sizes
import SwapCompiler.Proofs.PatchPoints
import SwapCompiler.Proofs.Ending
import SwapCompiler.Proofs.Unwrapping
import SwapCompiler.Proofs.Payload.RoundTrip
import SwapCompiler.Proofs.Ordering
import SwapCompiler.Proofs.Deposits
import SwapCompiler.Proofs.Interleaving
import SwapCompiler.Proofs.Reading.Assembly
import SwapCompiler.Proofs.Reading.Compiler
import SwapCompiler.Proofs.Noninterference
import SwapCompiler.Proofs.LetterCase
import SwapCompiler.Proofs.LegCalls
import SwapCompiler.Proofs.NativeValue
import SwapCompiler.Proofs.Text.IntegerLiteral
import SwapCompiler.Proofs.Schema
import SwapCompiler.Proofs.Amount
import SwapCompiler.Proofs.Allowance
import SwapCompiler.Proofs.Schema.Route
import SwapCompiler.Proofs.Schema.Violations
import SwapCompiler.Proofs.Request
import SwapCompiler.Proofs.Service
import SwapCompiler.Proofs.Surfaces
import SwapCompiler.Proofs.Acceptance
import SwapCompiler.Proofs.TokenWords
import SwapCompiler.Proofs.DexCall
import SwapCompiler.Proofs.Embedding
import SwapCompiler.Proofs.TokenPositions
import SwapCompiler.Proofs.Decimal.Notation
import SwapCompiler.Proofs.Shares
import SwapCompiler.Proofs.Codec
import SwapCompiler.Proofs.LegReports
import SwapCompiler.Proofs.Trace
