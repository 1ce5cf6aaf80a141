import OpenAddressing.Probe.Trail
import OpenAddressing.Proofs.Accepting
import OpenAddressing.Proofs.Accounting
import OpenAddressing.Proofs.Annotating
import OpenAddressing.Proofs.Annotating.Histories
import OpenAddressing.Proofs.Brevity
import OpenAddressing.Proofs.Churning
import OpenAddressing.Proofs.Climbing
import OpenAddressing.Proofs.Committing
import OpenAddressing.Proofs.Counting
import OpenAddressing.Proofs.Faultless
import OpenAddressing.Proofs.Filling
import OpenAddressing.Proofs.Flagging
import OpenAddressing.Proofs.Framing
import OpenAddressing.Proofs.Fullness
import OpenAddressing.Proofs.Ledger
import OpenAddressing.Proofs.Load
import OpenAddressing.Proofs.Metering
import OpenAddressing.Proofs.Mirroring
import OpenAddressing.Proofs.Mirroring.Tables
import OpenAddressing.Proofs.Mixing
import OpenAddressing.Proofs.Presence
import OpenAddressing.Proofs.Probe.Trails
import OpenAddressing.Proofs.Reentering
import OpenAddressing.Proofs.Refinement
import OpenAddressing.Proofs.Replaying
import OpenAddressing.Proofs.Reporting
import OpenAddressing.Proofs.Serving
import OpenAddressing.Proofs.Sifting
import OpenAddressing.Proofs.Stocking
import OpenAddressing.Proofs.Surviving
import OpenAddressing.Proofs.Teardown
import OpenAddressing.Proofs.Visiting
import OpenAddressing.Roster.Visits
import OpenAddressing.Scenario.Run
