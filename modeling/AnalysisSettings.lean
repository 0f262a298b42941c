import AnalysisSettings.Session
import AnalysisSettings.Synchronizer
import AnalysisSettings.Transport.Canned
import AnalysisSettings.Transport.WebServer
import AnalysisSettings.Proofs.Store
import AnalysisSettings.Proofs.Delivery
import AnalysisSettings.Proofs.Effective
import AnalysisSettings.Proofs.FlatKey
import AnalysisSettings.Proofs.Collision
import AnalysisSettings.Proofs.Override
import AnalysisSettings.Proofs.Json.Literal
import AnalysisSettings.Proofs.Json.Number
import AnalysisSettings.Proofs.Json.Integer
import AnalysisSettings.Proofs.Json.Grammar
import AnalysisSettings.Proofs.Json.Accepted
import AnalysisSettings.Proofs.Json.Record
import AnalysisSettings.Proofs.Json.Strict
import AnalysisSettings.Proofs.Payload.Settings
import AnalysisSettings.Proofs.Payload.Framing
import AnalysisSettings.Proofs.Payload.Properties
import AnalysisSettings.Proofs.Payload.QualityProfiles
import AnalysisSettings.Proofs.Inheritance
import AnalysisSettings.Proofs.Request
import AnalysisSettings.Proofs.Questions
import AnalysisSettings.Proofs.Synchronization
import AnalysisSettings.Proofs.Url.Directory
import AnalysisSettings.Proofs.Url.Slashes
import AnalysisSettings.Proofs.Url.Name
import AnalysisSettings.Proofs.Address
import AnalysisSettings.Proofs.Http
import AnalysisSettings.Proofs.ContextPath
import AnalysisSettings.Proofs.Notices
import AnalysisSettings.Proofs.Difference
import AnalysisSettings.Proofs.Run
import AnalysisSettings.Proofs.Exchange
import AnalysisSettings.Proofs.Version.Text
import AnalysisSettings.Proofs.Version.Order
import AnalysisSettings.Proofs.FieldSet
import AnalysisSettings.Proofs.Config.Assignment
import AnalysisSettings.Proofs.Config.Layers
import AnalysisSettings.Proofs.Sinks
import AnalysisSettings.Proofs.Version.Grammar
import AnalysisSettings.Proofs.Config.Serialized
import AnalysisSettings.Proofs.Config.Variable
