import BondedMouse.Firmware.Machine
import BondedMouse.Ranking.Loans
import BondedMouse.Simulation.Journal
import BondedMouse.Simulation.Platform
import BondedMouse.Timer.Script
import BondedMouse.Storage.Chip
import BondedMouse.Proofs.Bounds.Runs
import BondedMouse.Proofs.Firmware.Collections
import BondedMouse.Proofs.Firmware.Demand
import BondedMouse.Proofs.Firmware.PowerCycle
import BondedMouse.Proofs.Firmware.Pushes
import BondedMouse.Proofs.Firmware.Spans
import BondedMouse.Proofs.Radio.Devices
import BondedMouse.Proofs.Ranking.Loans
import BondedMouse.Proofs.Ranking.Restoring
import BondedMouse.Proofs.Reconnect.Visits
import BondedMouse.Proofs.Session.Directed
import BondedMouse.Proofs.Session.Erasure
import BondedMouse.Proofs.Session.Numbers
import BondedMouse.Proofs.Session.Recency
import BondedMouse.Proofs.Session.Restart
import BondedMouse.Proofs.Session.Retries
import BondedMouse.Proofs.Session.ScanTime
import BondedMouse.Proofs.Session.Twins
import BondedMouse.Proofs.Session.Wish
import BondedMouse.Proofs.Timer.Expiries
import BondedMouse.Proofs.Mouse.Fields
import BondedMouse.Proofs.Timer.Interrupts
import BondedMouse.Proofs.Button.Waveforms
import BondedMouse.Proofs.Radio.Enumeration
