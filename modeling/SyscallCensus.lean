import SyscallCensus.Host.FileTree
import SyscallCensus.Main
import SyscallCensus.Proofs.Reachable
import SyscallCensus.Proofs.Schedule
import SyscallCensus.Proofs.Bookkeeping
import SyscallCensus.Proofs.Blocks
import SyscallCensus.Proofs.Exploration
import SyscallCensus.Proofs.Provenance
import SyscallCensus.Proofs.Recognition
import SyscallCensus.Proofs.Verdict
import SyscallCensus.Proofs.Wrappers
import SyscallCensus.Proofs.Pruning
import SyscallCensus.Proofs.DeliveryOrder
import SyscallCensus.Proofs.Concatenation
import SyscallCensus.Proofs.Confinement
import SyscallCensus.Proofs.Lineage
import SyscallCensus.Proofs.Precedence
import SyscallCensus.Proofs.Ending
import SyscallCensus.Proofs.Invocations
import SyscallCensus.Proofs.Symbols
import SyscallCensus.Proofs.Operands
import SyscallCensus.Proofs.Noise
import SyscallCensus.Proofs.Accounts
import SyscallCensus.Proofs.TemplatePrinting
import SyscallCensus.Proofs.Candidates
import SyscallCensus.Proofs.Decoding
import SyscallCensus.Proofs.PlainText
import SyscallCensus.Proofs.Stages
import SyscallCensus.Proofs.Lookup
import SyscallCensus.Proofs.ReadBack
import SyscallCensus.Proofs.Matching
