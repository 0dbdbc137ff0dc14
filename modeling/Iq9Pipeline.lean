import Iq9Pipeline.Consumer.JpegEncoder
import Iq9Pipeline.Consumer.PromptBuilding
import Iq9Pipeline.Consumer.RelayProgress
import Iq9Pipeline.Consumer.VlmLines
import Iq9Pipeline.FrameCache.DirectLink
import Iq9Pipeline.FrameCache.FrameDoneReleases
import Iq9Pipeline.FrameCache.Nv12Coverage
import Iq9Pipeline.FrameCache.ProducerInit
import Iq9Pipeline.FrameCache.ReleaseFraming
import Iq9Pipeline.MultiCam.FaceElement
import Iq9Pipeline.MultiCam.GalleryPersistence
import Iq9Pipeline.FrameCache.SharedImage
import Iq9Pipeline.FrameCache.SlotWindows
import Iq9Pipeline.Handshake
import Iq9Pipeline.MultiCam.AggregatorRuns
import Iq9Pipeline.MultiCam.ConfigLoader
import Iq9Pipeline.MultiCam.DeduperElement
import Iq9Pipeline.MultiCam.DeduperRuns
import Iq9Pipeline.MultiCam.FaceAgreement
import Iq9Pipeline.MultiCam.FaceConfigLoader
import Iq9Pipeline.MultiCam.FaceEmbeddings
import Iq9Pipeline.MultiCam.FaceIdentity
import Iq9Pipeline.MultiCam.FacePreprocess
import Iq9Pipeline.MultiCam.FrameOffload
import Iq9Pipeline.MultiCam.GalleryFile
import Iq9Pipeline.MultiCam.GalleryRace
import Iq9Pipeline.MultiCam.LatencyRuns
import Iq9Pipeline.MultiCam.Letterbox
import Iq9Pipeline.MultiCam.MsgAggRuns
import Iq9Pipeline.MultiCam.ScoreRanking
import Iq9Pipeline.MultiCam.TimingMarkRuns
import Iq9Pipeline.MultiCam.TrackEviction
import Iq9Pipeline.RelaySystem
import Iq9Pipeline.RuleProcess.AlarmLatch
import Iq9Pipeline.RuleProcess.AlertBounds
import Iq9Pipeline.RuleProcess.AlertHistory
import Iq9Pipeline.RuleProcess.CameraIsolation
import Iq9Pipeline.RuleProcess.Deduplication
import Iq9Pipeline.RuleProcess.Envelope
import Iq9Pipeline.RuleProcess.FaceRecognition
import Iq9Pipeline.RuleProcess.LeftItemLaw
import Iq9Pipeline.RuleProcess.LeftItemRace
import Iq9Pipeline.RuleProcess.RelayFraming
import Iq9Pipeline.RuleProcess.Routing
import Iq9Pipeline.RuleProcess.SceneRoundTrip
import Iq9Pipeline.RuleProcess.SlotDisposal
import Iq9Pipeline.RuleProcess.SourceFaults
import Iq9Pipeline.RuleProcess.TrackGrowth
import Iq9Pipeline.Vision.FramePatches
import Iq9Pipeline.Vision.HalfValues
import Iq9Pipeline.Vision.ImageBudget
import Iq9Pipeline.Vision.InputTensors
import Iq9Pipeline.Vision.PatchKernels
import Iq9Pipeline.Vision.PatchPositions
import Iq9Pipeline.Vision.VegServer
import Iq9Pipeline.Vision.Quantization
import Iq9Pipeline.Startup
import Iq9Pipeline.VlmServer
import Iq9Pipeline.Vision.TensorMemory
