import DecadaEmbedded.Library.Run
import DecadaEmbedded.DecadaManager.SubscriptionCallback
import DecadaEmbedded.DecadaManager.Provisioning
import DecadaEmbedded.SensorControl
import DecadaEmbedded.Upstream
import DecadaEmbedded.CertificateRuns
import DecadaEmbedded.SensorThread
import DecadaEmbedded.DecadaManager.Connection
import DecadaEmbedded.DeviceUid
import DecadaEmbedded.Communications
import DecadaEmbedded.BootSession
import DecadaEmbedded.Configuration
import DecadaEmbedded.SensorsLib
import DecadaEmbedded.Json.Writer
import DecadaEmbedded.ServiceRequests
import DecadaEmbedded.BehaviorCoordinator
import DecadaEmbedded.MailBuffers
import DecadaEmbedded.DecadaManager.Pointers
import DecadaEmbedded.PersistItems
import DecadaEmbedded.DecadaManager.Renewal
import DecadaEmbedded.Tmp75.Thresholds
import DecadaEmbedded.Tmp75.Shadow
import DecadaEmbedded.Tmp75.PollCycle
import DecadaEmbedded.Acknowledgement
import DecadaEmbedded.DecadaManager.Ownership
import DecadaEmbedded.DecadaManager.Resubscription
import DecadaEmbedded.SensorsLib.Measurement
import DecadaEmbedded.SensorsLib.Commands
import DecadaEmbedded.SignatureBuffers
import DecadaEmbedded.EntityList
import DecadaEmbedded.TimeEngine
import DecadaEmbedded.SecureElement
import DecadaEmbedded.NumberScan
import DecadaEmbedded.ReplyPackets
import DecadaEmbedded.Mqtt.Delivery
import DecadaEmbedded.Mqtt.Requests
import DecadaEmbedded.Http.Request
import DecadaEmbedded.Http.UrlText
