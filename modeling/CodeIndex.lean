import CodeIndex.Command.Directory
import CodeIndex.Command.Run
import CodeIndex.HandOff.Encode
import CodeIndex.Main
import CodeIndex.Proofs.Accounting
import CodeIndex.Proofs.CallTarget
import CodeIndex.Proofs.Embedding
import CodeIndex.Proofs.Identified
import CodeIndex.Proofs.Key
import CodeIndex.Proofs.KeySeparation
import CodeIndex.Proofs.Membership
import CodeIndex.Proofs.Outcome
import CodeIndex.Proofs.Share
import CodeIndex.Proofs.Stepwise
import CodeIndex.Proofs.Stability
import CodeIndex.Proofs.Correspondence
import CodeIndex.Proofs.Isolation
import CodeIndex.Proofs.Renumbering
import CodeIndex.Proofs.Edges
import CodeIndex.Proofs.Projection
import CodeIndex.Proofs.KeyCommand
import CodeIndex.Proofs.Logging
import CodeIndex.Proofs.InwardName
import CodeIndex.Proofs.OffsetName
import CodeIndex.Proofs.NameParts
import CodeIndex.Proofs.Framing
import CodeIndex.Proofs.Directory
import CodeIndex.Proofs.ExtractCommand
import CodeIndex.Proofs.HandOff
import CodeIndex.Proofs.HandOffEdits
import CodeIndex.Proofs.LineBreaks
import CodeIndex.Proofs.SpanOrder
import CodeIndex.Proofs.SourceSlice
import CodeIndex.Proofs.Overloads
import CodeIndex.Proofs.LambdaOffset
import CodeIndex.Proofs.NamedKeys
import CodeIndex.Proofs.TypeParameters
import CodeIndex.Proofs.CleanLine
import CodeIndex.Proofs.RefusedWrites
import CodeIndex.Proofs.WholeWalk
import CodeIndex.Proofs.Growth
import CodeIndex.Proofs.ProblemSplit
import CodeIndex.Proofs.PlaceNumber
