import DriveBridge.Chain.Rehearsal
import DriveBridge.Proofs.Ata.Lossless
import DriveBridge.Proofs.Ata.ReturnedRegisters
import DriveBridge.Proofs.Chain.FailureSlot
import DriveBridge.Proofs.Chain.Ownership
import DriveBridge.Proofs.Factory.Workshop
import DriveBridge.Proofs.Scsi.Coherence
import DriveBridge.Proofs.Ata.RegisterOrigin
import DriveBridge.Proofs.Nvme.JMicron
import DriveBridge.Proofs.Chain.NvmePhases
import DriveBridge.Proofs.Multiplexer.Crc
import DriveBridge.Proofs.Multiplexer.Page
import DriveBridge.Proofs.Multiplexer.Routing
import DriveBridge.Proofs.Chain.Routing
import DriveBridge.Proofs.Chain.StaleData
import DriveBridge.Proofs.Chain.SectorDirection
import DriveBridge.Proofs.Chain.BadRequest
import DriveBridge.Proofs.Chain.Phases
import DriveBridge.Proofs.Chain.OwnLimit
import DriveBridge.Proofs.Factory.TimeLimit
import DriveBridge.Proofs.Chain.Forwarding
import DriveBridge.Proofs.Chain.SatLength
import DriveBridge.Proofs.Chain.Views
import DriveBridge.Proofs.Factory.FailureSlot
import DriveBridge.Proofs.Multiplexer.Burst
import DriveBridge.Proofs.Scsi.DescriptorSearch
import DriveBridge.Proofs.Chain.NvmeTransfer
import DriveBridge.Proofs.Nvme.NarrowCdb
import DriveBridge.Proofs.Chain.NarrowBridges
import DriveBridge.Proofs.Chain.NvmeBuffer
import DriveBridge.Proofs.Chain.SatProbe
import DriveBridge.Proofs.Chain.AtaBuffer
import DriveBridge.Proofs.Chain.Opening
import DriveBridge.Proofs.Chain.Fallback
import DriveBridge.Proofs.Ata.Smart
import DriveBridge.Proofs.Chain.TableCommands
import DriveBridge.Proofs.Chain.Health
import DriveBridge.Proofs.Factory.Wrapping
import DriveBridge.Proofs.Scsi.Truncation
import DriveBridge.Proofs.Ata.RegisterHistory
import DriveBridge.Proofs.Nvme.Identify
import DriveBridge.Proofs.Chain.Stepwise
