import Courier.Main
import Courier.Session
import Courier.Proofs.Influence
import Courier.Proofs.Independence
import Courier.Proofs.Secrecy
import Courier.Proofs.DomainEnd
import Courier.Proofs.Layers
import Courier.Proofs.Authority
import Courier.Proofs.Joined
import Courier.Proofs.Origin
import Courier.Proofs.Segments
import Courier.Proofs.Joining
import Courier.Proofs.Validation
import Courier.Proofs.Forms
import Courier.Proofs.Queries
import Courier.Proofs.Groups
import Courier.Proofs.Options
import Courier.Proofs.Sessions
import Courier.Proofs.Numerals
import Courier.Proofs.Refusals
import Courier.Proofs.JsonScalars
import Courier.Proofs.JsonTexts
import Courier.Proofs.Bodies
import Courier.Proofs.BodyParameters
import Courier.Proofs.YamlLines
import Courier.Proofs.YamlBlocks
import Courier.Proofs.YamlTokens
import Courier.Proofs.YamlRecords
import Courier.Proofs.YamlDocuments
import Courier.Proofs.YamlReading
import Courier.Proofs.ConfigText
import Courier.Proofs.ByteOrder
import Courier.Proofs.Delays
import Courier.Proofs.Offenders
import Courier.Proofs.Placement
import Courier.Proofs.NamedFile
import Courier.Proofs.Overrides
import Courier.Proofs.Lookup
import Courier.Proofs.Reports
import Courier.Proofs.HeaderValues
import Courier.Proofs.Building
import Courier.Proofs.Replacement
import Courier.Proofs.JsonPassages
import Courier.Proofs.JsonReading
import Courier.Proofs.Answered
import Courier.Proofs.Printing
