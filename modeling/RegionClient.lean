import RegionClient.Controller.Connection
import RegionClient.Controller.Devices
import RegionClient.Controller.Files
import RegionClient.Controller.Interfaces
import RegionClient.Controller.Listings
import RegionClient.Controller.Machines
import RegionClient.Proofs.Sending
import RegionClient.Proofs.Calls
import RegionClient.Proofs.Atomicity
import RegionClient.Proofs.Compensation
import RegionClient.Proofs.Joining
import RegionClient.Proofs.Segments
import RegionClient.Proofs.ApiPaths
import RegionClient.Controller.Operation
import RegionClient.Proofs.Operations
import RegionClient.Proofs.Servers
import RegionClient.Proofs.Culprits
import RegionClient.Proofs.Parts
import RegionClient.Proofs.Erasure
import RegionClient.Proofs.ForcedIntegers
import RegionClient.Proofs.Interchange
import RegionClient.Proofs.Versions
import RegionClient.Proofs.Texts
import RegionClient.Proofs.Respelling
import RegionClient.Proofs.NormalForms
import RegionClient.Proofs.WireForms
import RegionClient.Proofs.RoundTrip
import RegionClient.Proofs.Resolution
import RegionClient.Proofs.Failures
import RegionClient.Proofs.Rejections
import RegionClient.Proofs.ParameterValues
import RegionClient.Proofs.Counting
import RegionClient.Proofs.Exhaustion
import RegionClient.Proofs.WrittenConstraints
import RegionClient.Proofs.IntegerOverlaps
import RegionClient.Proofs.Faults
import RegionClient.Proofs.Alternatives
import RegionClient.Proofs.ListReading
import RegionClient.Proofs.OuterShapes
import RegionClient.Proofs.VersionTables
import RegionClient.Proofs.StoredDurations
import RegionClient.Proofs.Backoff
import RegionClient.Proofs.WellFormedConstraints
import RegionClient.Proofs.WrittenStorage
import RegionClient.Proofs.JoinedLists
import RegionClient.Proofs.EncodedTexts
import RegionClient.Proofs.AddedSegments
import RegionClient.Proofs.FileAddresses
import RegionClient.Proofs.VersionTexts
import RegionClient.Proofs.Acknowledgements
import RegionClient.Proofs.EmptyMatches
import RegionClient.Proofs.AbsentMembers
import RegionClient.Proofs.Connecting
import RegionClient.Proofs.NameLists
import RegionClient.Proofs.DomainNames
import RegionClient.Proofs.GroupedAddresses
import RegionClient.Proofs.HostAddresses
import RegionClient.Proofs.ReadUrls
import RegionClient.Proofs.WrittenAuthorities
import RegionClient.Proofs.WrittenUrls
import RegionClient.Proofs.BaseAddresses
import RegionClient.Proofs.ReleaseSuffixes
import RegionClient.Proofs.DeclarationOrder
