import FluxQuery.Journal
import FluxQuery.Main
import FluxQuery.Proofs.Acceptance
import FluxQuery.Proofs.Anchors
import FluxQuery.Proofs.Cursors
import FluxQuery.Proofs.EnumValues
import FluxQuery.Proofs.Range
import FluxQuery.Proofs.Redirection
import FluxQuery.Proofs.Unambiguity
import FluxQuery.Proofs.Readability
import FluxQuery.Proofs.Paging
import FluxQuery.Proofs.Drafting
import FluxQuery.Proofs.JsonText
import FluxQuery.Proofs.FilterCodec
import FluxQuery.Proofs.Places
import FluxQuery.Proofs.Overwriting
import FluxQuery.Proofs.Documents
import FluxQuery.Proofs.TimeTexts
import FluxQuery.Proofs.Charts
import FluxQuery.Proofs.Outcomes
import FluxQuery.Proofs.Comparands
import FluxQuery.Proofs.Slots
import FluxQuery.Proofs.Offenders
import FluxQuery.Proofs.Seams
import FluxQuery.Proofs.SnakeCase
import FluxQuery.Proofs.Durations
import FluxQuery.Proofs.Windows
import FluxQuery.Proofs.Fields
