import ScriptBatch.Main
import ScriptBatch.Rehearsal
import ScriptBatch.Proofs.Calls
import ScriptBatch.Proofs.Refinement
import ScriptBatch.Proofs.Coherence
import ScriptBatch.Proofs.Verdict
import ScriptBatch.Proofs.FailFast
import ScriptBatch.Proofs.Flags
import ScriptBatch.Proofs.Noninterference
import ScriptBatch.Proofs.Series
import ScriptBatch.Proofs.Splitting
import ScriptBatch.Proofs.Validity
import ScriptBatch.Proofs.CommandForm
import ScriptBatch.Proofs.Reordering
import ScriptBatch.Proofs.Overriding
import ScriptBatch.Proofs.DryRunListing
import ScriptBatch.Proofs.Schema
import ScriptBatch.Proofs.Narration
import ScriptBatch.Proofs.Layout
import ScriptBatch.Proofs.Spelling
import ScriptBatch.Proofs.Merging
import ScriptBatch.Proofs.FirstViolation
import ScriptBatch.Proofs.CommandLine
import ScriptBatch.Proofs.Quoting
import ScriptBatch.Proofs.Labels
