import Backplane.Main
import Backplane.Proofs.Address.Notation
import Backplane.Proofs.Bus.Requests
import Backplane.Proofs.Bus.WidthGate
import Backplane.Proofs.Cancellation
import Backplane.Proofs.CommandLine.ExitCode
import Backplane.Proofs.Dma.Audit
import Backplane.Proofs.Dma.DrawnLengths
import Backplane.Proofs.Dma.Environment
import Backplane.Proofs.Dma.HandOff
import Backplane.Proofs.Dma.Spending
import Backplane.Proofs.Dma.Splitting
import Backplane.Proofs.Dma.Timekeeping
import Backplane.Proofs.Exerciser.BlockCounters
import Backplane.Proofs.Exerciser.Cancellation
import Backplane.Proofs.Exerciser.Completion
import Backplane.Proofs.Exerciser.Conduct
import Backplane.Proofs.Exerciser.ExactReport
import Backplane.Proofs.Exerciser.FaultPicture
import Backplane.Proofs.Exerciser.InstalledSize
import Backplane.Proofs.Exerciser.Refusals
import Backplane.Proofs.Exerciser.ShortedLine
import Backplane.Proofs.Exerciser.Sizing
import Backplane.Proofs.Memory.Aliasing
import Backplane.Proofs.Memory.History
import Backplane.Proofs.Power.Interlock
import Backplane.Proofs.Power.Probe
import Backplane.Proofs.Power.Simulated
import Backplane.Proofs.Power.TimedPrefix
import Backplane.Proofs.Text.Quotation
import Backplane.Proofs.Transport.LeadingWords
