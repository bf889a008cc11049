import TrafficMonitor.Main
import TrafficMonitor.Proofs.Packet.Written
import TrafficMonitor.Proofs.Packet.Captured
import TrafficMonitor.Proofs.Filter.Negation
import TrafficMonitor.Proofs.Filter.Overlong
import TrafficMonitor.Proofs.Analysis.Ledger
import TrafficMonitor.Proofs.Analysis.Refiltering
import TrafficMonitor.Proofs.Filter.Cells
import TrafficMonitor.Proofs.Capture.Table
import TrafficMonitor.Proofs.Capture.Agreement
import TrafficMonitor.Proofs.Capture.Custody
import TrafficMonitor.Proofs.Command.Delivery
import TrafficMonitor.Proofs.Command.Output
import TrafficMonitor.Proofs.Analysis.Nesting
import TrafficMonitor.Proofs.Filter.Safety
import TrafficMonitor.Proofs.Capture.Accounting
import TrafficMonitor.Proofs.Analysis.CalendarEnd
import TrafficMonitor.Proofs.Analysis.Grouping
import TrafficMonitor.Proofs.Analysis.Installation
import TrafficMonitor.Proofs.Filter.Reach
import TrafficMonitor.Proofs.Packet.Prefixes
import TrafficMonitor.Proofs.Filter.Completion
import TrafficMonitor.Proofs.Filter.Scanning
import TrafficMonitor.Proofs.Report.Columns
import TrafficMonitor.Proofs.Report.HexReading
