import LogStyle.Main
import LogStyle.Proofs.Accounting
import LogStyle.Proofs.Annotations
import LogStyle.Proofs.Changes
import LogStyle.Proofs.Codec
import LogStyle.Proofs.Compilation
import LogStyle.Proofs.Concatenation
import LogStyle.Proofs.Concealing
import LogStyle.Proofs.Convergence
import LogStyle.Proofs.DocumentOrder
import LogStyle.Proofs.FieldOrder
import LogStyle.Proofs.FunctionOrder
import LogStyle.Proofs.Grammar
import LogStyle.Proofs.History
import LogStyle.Proofs.Inference
import LogStyle.Proofs.Invisible
import LogStyle.Proofs.Lookup
import LogStyle.Proofs.Promotion
import LogStyle.Proofs.Recheck
import LogStyle.Proofs.Recognition
import LogStyle.Proofs.ReportOrder
import LogStyle.Proofs.Selecting
import LogStyle.Proofs.Separate
import LogStyle.Proofs.Shadowing
import LogStyle.Proofs.Splicing
import LogStyle.Proofs.Stripping
import LogStyle.Proofs.TypeOrder
import LogStyle.Proofs.Wording
