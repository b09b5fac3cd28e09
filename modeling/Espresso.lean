import Espresso.Bundled
import Espresso.Decimal.Layout
import Espresso.Decimal.Numeral
import Espresso.Decimal.Shortest
import Espresso.Entry
import Espresso.Failure
import Espresso.Json
import Espresso.Preset.Admission
import Espresso.Preset.Basic
import Espresso.Preset.Catalog
import Espresso.Profile.Basic
import Espresso.Profile.Problem
import Espresso.Profile.Warning
import Espresso.Proofs.Decimal.Addition
import Espresso.Proofs.Decimal.Double
import Espresso.Proofs.Decimal.Rounding
import Espresso.Proofs.Grammar.Brace
import Espresso.Proofs.Grammar.Command
import Espresso.Proofs.Grammar.Completion
import Espresso.Proofs.Grammar.Concatenation
import Espresso.Proofs.Grammar.Entry
import Espresso.Proofs.Grammar.Extension
import Espresso.Proofs.Grammar.Fault
import Espresso.Proofs.Grammar.Front
import Espresso.Proofs.Grammar.Group
import Espresso.Proofs.Grammar.Item
import Espresso.Proofs.Grammar.Longest
import Espresso.Proofs.Grammar.Spelling
import Espresso.Proofs.Grammar.Step
import Espresso.Proofs.Grammar.Tag
import Espresso.Proofs.Grammar.Token
import Espresso.Proofs.Preset.Catalog
import Espresso.Proofs.Preset.Collection
import Espresso.Proofs.Profile.Acceptance
import Espresso.Proofs.Profile.Clean
import Espresso.Proofs.Profile.Comments
import Espresso.Proofs.Profile.Diagnosis
import Espresso.Proofs.Profile.Groups
import Espresso.Proofs.Profile.Insertion
import Espresso.Proofs.Profile.Repeats
import Espresso.Proofs.Profile.Report
import Espresso.Proofs.Profile.Stack
import Espresso.Proofs.Service.Agreement
import Espresso.Proofs.Service.Custody
import Espresso.Proofs.Service.Log
import Espresso.Proofs.Service.Page
import Espresso.Proofs.Service.Refusal
import Espresso.Proofs.Service.Sharing
import Espresso.Proofs.Service.Turn
import Espresso.Proofs.Step.Repeats
import Espresso.Proofs.Text.Case
import Espresso.Proofs.Text.Line
import Espresso.Proofs.Text.Span
import Espresso.Proofs.Trace.Channel
import Espresso.Proofs.Trace.Clock
import Espresso.Proofs.Trace.Continuation
import Espresso.Proofs.Trace.Continuity
import Espresso.Proofs.Trace.Correction
import Espresso.Proofs.Trace.Forward
import Espresso.Proofs.Trace.Handover
import Espresso.Proofs.Trace.Relevance
import Espresso.Proofs.Trace.Repeats
import Espresso.Proofs.Trace.Run
import Espresso.Reading.Basic
import Espresso.Reading.Command
import Espresso.Reading.Entry
import Espresso.Reading.Step
import Espresso.Reading.Tag
import Espresso.Reading.Token
import Espresso.Service.Desk
import Espresso.Service.Offer
import Espresso.Service.Prompt
import Espresso.Service.Reference
import Espresso.Service.Report
import Espresso.Service.Session
import Espresso.Step
import Espresso.Storage
import Espresso.Text.Blank
import Espresso.Text.Lowercase
import Espresso.Text.Numbered
import Espresso.Text.Printable
import Espresso.Text.Quoted
import Espresso.Trace.Segment
import Espresso.Trace.Timeline
import Espresso.Vocabulary.Key
import Espresso.Vocabulary.Kind
import Espresso.Vocabulary.Tag
