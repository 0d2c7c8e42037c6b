import Handover.Announcement.Writer
import Handover.Holdings
import Handover.Ledger
import Handover.Main
import Handover.Proofs.Recording
import Handover.Proofs.Ownership
import Handover.Proofs.Attempt
import Handover.Proofs.Custody
import Handover.Proofs.Handshake
import Handover.Proofs.OneShot
import Handover.Proofs.Extension
import Handover.Proofs.Verdict
import Handover.Proofs.Deliveries
import Handover.Proofs.Spelling
import Handover.Proofs.Writing
import Handover.Proofs.Codec
import Handover.Proofs.Truncation
import Handover.Proofs.Base
import Handover.Proofs.Agreement
import Handover.Proofs.Capacity
import Handover.Proofs.FirstFault
import Handover.Proofs.Naming
import Handover.Proofs.Isolation
import Handover.Proofs.Drivers
import Handover.Proofs.Resolution
import Handover.Proofs.Sameness
import Handover.Proofs.Settings
import Handover.Proofs.Account
import Handover.Proofs.Milestones
import Handover.Proofs.Readback
import Handover.Proofs.Diagnosis
import Handover.Proofs.Addressing
import Handover.Proofs.Peers
import Handover.Proofs.Receiving
import Handover.Proofs.Tables
import Handover.Proofs.Wardship
import Handover.Proofs.Publication
