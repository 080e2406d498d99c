import LoadedImage.Text.NumberFormat
import LoadedImage.Description
import LoadedImage.Session
import LoadedImage.Proofs.Restriction
import LoadedImage.Proofs.RegionSpan
import LoadedImage.Proofs.TableCorrection
import LoadedImage.Proofs.BufferOffsets
import LoadedImage.Proofs.StoredForm
import LoadedImage.Proofs.Addressing
import LoadedImage.Proofs.CorrectionRuns
import LoadedImage.Proofs.Placement
import LoadedImage.Proofs.Overrun
import LoadedImage.Query
import LoadedImage.Proofs.AddressText
import LoadedImage.Proofs.FilterStack
import LoadedImage.Proofs.RegionRecords
import LoadedImage.Proofs.FieldDependence
import LoadedImage.Proofs.CorrectionEffect
import LoadedImage.Proofs.SplitTables
import LoadedImage.Proofs.WiderExtent
import LoadedImage.Proofs.Loading
import LoadedImage.Proofs.TextParts
import LoadedImage.Proofs.Numerals
import LoadedImage.Proofs.FaultText
import LoadedImage.Proofs.Failures
import LoadedImage.Proofs.GlueTables
import LoadedImage.Proofs.CategoryNames
import LoadedImage.Proofs.LogRouting
import LoadedImage.Proofs.Intervals
import LoadedImage.Proofs.LogTrace
import LoadedImage.Proofs.SignedDistance
import LoadedImage.Proofs.NameOrder
import LoadedImage.Proofs.ShortNames
import LoadedImage.Proofs.SessionRuns
