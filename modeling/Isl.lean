import Isl.Authority.Directory
import Isl.Authority.Memory
import Isl.Cache
import Isl.CommandLine
import Isl.Ion.Parser
import Isl.Ion.Printer
import Isl.Lint
import Isl.Main
import Isl.Pattern
import Isl.Proofs.Authority
import Isl.Proofs.Authority.Stream
import Isl.Proofs.Bag
import Isl.Proofs.Cache.Callers
import Isl.Proofs.Cache.Waiters
import Isl.Proofs.Directory.Confined
import Isl.Proofs.Ion.Alike
import Isl.Proofs.Ion.Slices
import Isl.Proofs.Ion.Survival
import Isl.Proofs.Ion.Token
import Isl.Proofs.Lint
import Isl.Proofs.Lint.TopLevel
import Isl.Proofs.Measure
import Isl.Proofs.Path
import Isl.Proofs.Pattern.Denotation
import Isl.Proofs.Pattern.Repetition
import Isl.Proofs.Pattern.Verbatim
import Isl.Proofs.Range
import Isl.Proofs.Range.Inhabited
import Isl.Proofs.Range.Mirror
import Isl.Proofs.Reader.Apart
import Isl.Proofs.Reader.Reserved
import Isl.Proofs.Reader.Spelling
import Isl.Proofs.System.Alone
import Isl.Proofs.System.Coherence
import Isl.Proofs.System.Concord
import Isl.Proofs.System.Demand
import Isl.Proofs.System.Failure
import Isl.Proofs.System.Independence
import Isl.Proofs.System.Progress
import Isl.Proofs.System.Reach
import Isl.Proofs.System.Recent
import Isl.Proofs.System.Reordered
import Isl.Proofs.System.Search
import Isl.Proofs.System.Shadowing
import Isl.Proofs.Timestamp.Clock
import Isl.Proofs.Writer.Closed
import Isl.Proofs.Writer.Document
import Isl.Proofs.Writer.Ends
import Isl.Proofs.Writer.Header
import Isl.Proofs.Writer.Read
import Isl.Reader.Document
import Isl.System
import Isl.Writer
