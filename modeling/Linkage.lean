import Linkage.Helper
import Linkage.Log.Entry.Reader
import Linkage.Main
import Linkage.Proofs.Calendar
import Linkage.Proofs.HelperInterface
import Linkage.Proofs.Loads
import Linkage.Proofs.LogIndependence
import Linkage.Proofs.PathSpelling
import Linkage.Proofs.Probe
import Linkage.Proofs.Serialization
import Linkage.Proofs.SetupLog
import Linkage.Proofs.SinkChoice
import Linkage.Proofs.Standing
import Linkage.Scripted.Fixture
import Linkage.Proofs.ArrayReads
import Linkage.Proofs.Configuration
import Linkage.Proofs.TextOrder
import Linkage.Proofs.Timestamp
import Linkage.Proofs.Composition
import Linkage.Proofs.LooseWords
import Linkage.Proofs.LostLines
import Linkage.Proofs.Normalization
import Linkage.Proofs.FileAccess
import Linkage.Proofs.SharedFile
import Linkage.Proofs.ProbeCommand
import Linkage.Proofs.ReportText
import Linkage.Proofs.HelperDigest
import Linkage.Proofs.ParentPath
import Linkage.Proofs.HelperImage
import Linkage.Proofs.Recorder
