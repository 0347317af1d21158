import SandPlatform.Heci.Mappings
import SandPlatform.Heci.Receiving
import SandPlatform.Heci.Sending
import SandPlatform.Heci.Rounds
import SandPlatform.Heci.Waits
import SandPlatform.Heci.Deadline
import SandPlatform.Interrupt.Mp
import SandPlatform.Interrupt.Enumeration
import SandPlatform.Boot.HeapArena
import SandPlatform.Boot.ApStartup
import SandPlatform.Boot.Translation
import SandPlatform.Boot.AddressMap
import SandPlatform.Hardware.Bar
import SandPlatform.Timer.Clocks
import SandPlatform.Timer.Cpus
import SandPlatform.Timer.Publication
import SandPlatform.Smc.Protocol
import SandPlatform.Debug.Shift
import SandPlatform.DeviceInfo.Delivery
import SandPlatform.Heci.Refusal
import SandPlatform.Heci.Retrieval
import SandPlatform.HwkeyCrypt.Inverse
import SandPlatform.HwkeyCrypt.Release
import SandPlatform.HwkeyCrypt.Nonce
import SandPlatform.HwkeyCrypt.Lengths
import SandPlatform.HwkeyMigration.Matching
import SandPlatform.HwkeyMigration.Discipline
import SandPlatform.Platform.SecInfoRegion
import SandPlatform.Platform.Sysenter
import SandPlatform.Spi.Containment
import SandPlatform.Spi.Alignment
import SandPlatform.Spi.LateWords
import SandPlatform.Spi.Brackets
import SandPlatform.Spi.WordWidths
import SandPlatform.Spi.UserCopies
import SandPlatform.Spi.StaleBytes
import SandPlatform.Heci.LoopHeads
import SandPlatform.Xml.Numbers
import SandPlatform.Xml.Buffer
import SandPlatform.Xml.NodePools
import SandPlatform.Xml.Streaming
import SandPlatform.Xml.Copies
import SandPlatform.Xml.Loading
