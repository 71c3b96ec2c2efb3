import PlanarSketch.Binary64
import PlanarSketch.Config
import PlanarSketch.Constraint
import PlanarSketch.Decimal.Digits
import PlanarSketch.Decimal.Format
import PlanarSketch.Decimal.Literal
import PlanarSketch.Diagnosis
import PlanarSketch.Entity
import PlanarSketch.Error
import PlanarSketch.Fault
import PlanarSketch.Freedom
import PlanarSketch.Jacobian
import PlanarSketch.Json.Arithmetic
import PlanarSketch.Json.Basic
import PlanarSketch.Json.Convert
import PlanarSketch.Json.Number
import PlanarSketch.Json.Reader
import PlanarSketch.Json.Writer
import PlanarSketch.Layout
import PlanarSketch.Ledger
import PlanarSketch.Linear.Correction
import PlanarSketch.Linear.Dense
import PlanarSketch.Linear.Elimination
import PlanarSketch.Linear.Spectrum
import PlanarSketch.Linear.System
import PlanarSketch.Linear.Table
import PlanarSketch.Newton
import PlanarSketch.Notice
import PlanarSketch.Partials
import PlanarSketch.Proofs.Checked
import PlanarSketch.Proofs.Config.Bounds
import PlanarSketch.Proofs.Config.Checked
import PlanarSketch.Proofs.Config.Stray
import PlanarSketch.Proofs.Decimal.Leading
import PlanarSketch.Proofs.Decimal.Numeral
import PlanarSketch.Proofs.Error.Family
import PlanarSketch.Proofs.Exact.Correction
import PlanarSketch.Proofs.Exact.Deficiency
import PlanarSketch.Proofs.Exact.Derivative
import PlanarSketch.Proofs.Exact.Elimination
import PlanarSketch.Proofs.Exact.FullRank
import PlanarSketch.Proofs.Exact.Holds
import PlanarSketch.Proofs.Exact.LostRows
import PlanarSketch.Proofs.Exact.Matching
import PlanarSketch.Proofs.Exact.Pivots
import PlanarSketch.Proofs.Exact.Placement
import PlanarSketch.Proofs.Exact.Real
import PlanarSketch.Proofs.Exact.Renumbering
import PlanarSketch.Proofs.Exact.Run
import PlanarSketch.Proofs.Exact.Satisfied
import PlanarSketch.Proofs.Exact.Solve
import PlanarSketch.Proofs.Exact.Swap
import PlanarSketch.Proofs.Exact.Tether
import PlanarSketch.Proofs.Exact.Unread
import PlanarSketch.Proofs.Exact.ZeroColumn
import PlanarSketch.Proofs.Indices
import PlanarSketch.Proofs.Jacobian.Analytic
import PlanarSketch.Proofs.Jacobian.Dense
import PlanarSketch.Proofs.Jacobian.InPlace
import PlanarSketch.Proofs.Jacobian.Reads
import PlanarSketch.Proofs.Json.Field
import PlanarSketch.Proofs.Json.Number
import PlanarSketch.Proofs.Json.Text
import PlanarSketch.Proofs.Json.Value
import PlanarSketch.Proofs.Layout.Columns
import PlanarSketch.Proofs.Layout.Named
import PlanarSketch.Proofs.Layout.Pinned
import PlanarSketch.Proofs.Layout.Placement
import PlanarSketch.Proofs.Layout.Represents
import PlanarSketch.Proofs.Layout.WriteBack
import PlanarSketch.Proofs.Ledger.Distinct
import PlanarSketch.Proofs.Ledger.Gathered
import PlanarSketch.Proofs.Newton.Best
import PlanarSketch.Proofs.Newton.Books
import PlanarSketch.Proofs.Newton.Continued
import PlanarSketch.Proofs.Newton.Descent
import PlanarSketch.Proofs.Newton.Residual
import PlanarSketch.Proofs.Newton.Run
import PlanarSketch.Proofs.Number.Order
import PlanarSketch.Proofs.Number.Special
import PlanarSketch.Proofs.Number.Value
import PlanarSketch.Proofs.Number.Vanishing
import PlanarSketch.Proofs.Record.Loaded
import PlanarSketch.Proofs.Record.Restored
import PlanarSketch.Proofs.Record.Sound
import PlanarSketch.Proofs.Record.Stray
import PlanarSketch.Proofs.Session.Action
import PlanarSketch.Proofs.Session.Again
import PlanarSketch.Proofs.Session.Best
import PlanarSketch.Proofs.Session.Counters
import PlanarSketch.Proofs.Session.Derivatives
import PlanarSketch.Proofs.Session.Diagnosis
import PlanarSketch.Proofs.Session.Failing
import PlanarSketch.Proofs.Session.Finite
import PlanarSketch.Proofs.Session.Frame
import PlanarSketch.Proofs.Session.Layout
import PlanarSketch.Proofs.Session.Load
import PlanarSketch.Proofs.Session.Names
import PlanarSketch.Proofs.Session.Reachable
import PlanarSketch.Proofs.Session.Removal
import PlanarSketch.Proofs.Session.Report
import PlanarSketch.Proofs.Session.Saved
import PlanarSketch.Proofs.Session.Silence
import PlanarSketch.Proofs.Session.Solve
import PlanarSketch.Proofs.Session.WellFormed
import PlanarSketch.Proofs.Sketch.Numbered
import PlanarSketch.Proofs.Solve.Again
import PlanarSketch.Proofs.Solve.Solved
import PlanarSketch.Proofs.Store.Coherent
import PlanarSketch.Proofs.Store.Frame
import PlanarSketch.Proofs.Store.Rearranged
import PlanarSketch.Proofs.Store.Sound
import PlanarSketch.Record.Constraint
import PlanarSketch.Record.Entity
import PlanarSketch.Record.Formula
import PlanarSketch.Record.Freedom
import PlanarSketch.Record.Position
import PlanarSketch.Record.Quantity
import PlanarSketch.Record.Store
import PlanarSketch.Record.Table
import PlanarSketch.Record.Vector
import PlanarSketch.Relation
import PlanarSketch.Rounding
import PlanarSketch.Scalar
import PlanarSketch.Session
import PlanarSketch.Session.Keyed
import PlanarSketch.Settings
import PlanarSketch.Shape
import PlanarSketch.Solve
import PlanarSketch.Store
import PlanarSketch.Text.Basic
import PlanarSketch.Text.Classes
import PlanarSketch.Text.Printable
import PlanarSketch.Text.Quoted
