import WhipWhep.Avc.ByteStream
import WhipWhep.Avc.Config
import WhipWhep.Avc.Framing
import WhipWhep.Avc.LengthPrefixed
import WhipWhep.Avc.NalUnit
import WhipWhep.Capability.Act
import WhipWhep.Capability.Engine
import WhipWhep.Capability.Http
import WhipWhep.Capability.Layer
import WhipWhep.Capability.Relay
import WhipWhep.Capability.Script
import WhipWhep.Client
import WhipWhep.Connection
import WhipWhep.Counters
import WhipWhep.EngineLog
import WhipWhep.Error
import WhipWhep.Exchange
import WhipWhep.InMemory.Engine
import WhipWhep.InMemory.Http
import WhipWhep.InMemory.Rtp
import WhipWhep.InMemory.Setting
import WhipWhep.Media.AudioConfig
import WhipWhep.Media.Codec
import WhipWhep.Media.Stream
import WhipWhep.Player
import WhipWhep.Proofs.Exchange.Course
import WhipWhep.Proofs.Run
import WhipWhep.Publisher
import WhipWhep.Rehearsal.Host
import WhipWhep.Rehearsal.Message
import WhipWhep.Rehearsal.Negotiation
import WhipWhep.Rehearsal.World
import WhipWhep.Sdp.MediaDescription
import WhipWhep.Sdp.Offer
import WhipWhep.Sdp.Section
import WhipWhep.Session.Config
import WhipWhep.Session.Context
import WhipWhep.Session.Wait
import WhipWhep.Text.Blank
import WhipWhep.Text.CodePoints
import WhipWhep.Text.CombiningClass
import WhipWhep.Text.Decimal
import WhipWhep.Text.Duration
import WhipWhep.Text.Graphic
import WhipWhep.Text.Hex
import WhipWhep.Text.Lines
import WhipWhep.Text.Mark
import WhipWhep.Text.Printable
import WhipWhep.Text.Quoted
import WhipWhep.Text.Utf8
import WhipWhep.Text.Uuid
import WhipWhep.Track.Basic
import WhipWhep.Track.Registry
import WhipWhep.Track.Transport
import WhipWhep.Url.Address
import WhipWhep.Url.Basic
import WhipWhep.Url.Domain
import WhipWhep.Url.Domain.Composite
import WhipWhep.Url.Domain.Direction
import WhipWhep.Url.Domain.Folding
import WhipWhep.Url.Domain.Joining
import WhipWhep.Url.Domain.Mapping
import WhipWhep.Url.Domain.NormalForm
import WhipWhep.Url.Error
import WhipWhep.Url.Host
import WhipWhep.Url.Parse
import WhipWhep.Url.Percent
import WhipWhep.Url.Punycode
import WhipWhep.Url.Trail
import WhipWhep.Proofs.Exchange.Redirects
import WhipWhep.Proofs.Track.Relaying
import WhipWhep.Proofs.Track.Debt
import WhipWhep.Proofs.Track.Holding
import WhipWhep.Proofs.Panics
import WhipWhep.Proofs.Session.Working
import WhipWhep.Proofs.Session.Closing
import WhipWhep.Proofs.Session.Roles
import WhipWhep.Proofs.Session.Opening
import WhipWhep.Proofs.Steps
import WhipWhep.Proofs.Session.Teardown
import WhipWhep.Proofs.Exchange.Resource
import WhipWhep.Proofs.Session.Deletion
import WhipWhep.Proofs.Session.Order
import WhipWhep.Proofs.Text.Lines
import WhipWhep.Proofs.Sdp.Reading
import WhipWhep.Proofs.Text.Decimal
import WhipWhep.Proofs.Sdp.RoundTrip
import WhipWhep.Proofs.Track.Passing
import WhipWhep.Proofs.Track.Counting
import WhipWhep.Proofs.Session.Passing
import WhipWhep.Proofs.Session.Lasting
import WhipWhep.Proofs.Track.Wiring
import WhipWhep.Proofs.Session.Wiring
import WhipWhep.Proofs.Session.Guarding
import WhipWhep.Proofs.Exchange.Lifetime
import WhipWhep.Proofs.Avc.ByteStream
import WhipWhep.Proofs.Avc.LengthPrefixed
import WhipWhep.Proofs.Avc.Config
import WhipWhep.Proofs.Avc.Framing
import WhipWhep.Proofs.Avc.ParameterSets
import WhipWhep.Proofs.Sdp.Offer
import WhipWhep.Proofs.Session.Playing
import WhipWhep.Proofs.Session.Keyframes
import WhipWhep.Proofs.Session.Handles
import WhipWhep.Proofs.Session.Lending
import WhipWhep.Proofs.Session.Counting
import WhipWhep.Proofs.InMemory.Serving
import WhipWhep.Proofs.InMemory.Publishing
import WhipWhep.Proofs.InMemory.Sending
import WhipWhep.Proofs.InMemory.Playing
import WhipWhep.Proofs.InMemory.Feeding
import WhipWhep.Proofs.InMemory.Delivery
import WhipWhep.Proofs.InMemory.Journal
import WhipWhep.Proofs.InMemory.Bookkeeping
import WhipWhep.Proofs.Track.Dismantling
import WhipWhep.Proofs.Session.Dismantling
import WhipWhep.Proofs.Preceding
import WhipWhep.Proofs.Session.Weaving
import WhipWhep.Proofs.Exchange.Sizes
import WhipWhep.Proofs.Session.Sizes
import WhipWhep.Proofs.Track.Refusing
import WhipWhep.Proofs.Exchange.Refusing
import WhipWhep.Proofs.Session.Awaiting
import WhipWhep.Proofs.Session.Refusing
import WhipWhep.Proofs.Session.Cancellation
import WhipWhep.Proofs.InMemory.Kinds
import WhipWhep.Proofs.Exchange.OneShot
import WhipWhep.Proofs.Session.Screening
import WhipWhep.Proofs.Session.Finality
import WhipWhep.Proofs.Session.Agreement
import WhipWhep.Proofs.Session.Polling
import WhipWhep.Proofs.Avc.Cursor
import WhipWhep.Proofs.Avc.Splitting
import WhipWhep.Proofs.Avc.Record
import WhipWhep.Proofs.Session.Rounds
import WhipWhep.Proofs.Session.Rotation
import WhipWhep.Proofs.Session.Starvation
import WhipWhep.Proofs.Avc.Scanner
import WhipWhep.Proofs.Avc.Rereading
import WhipWhep.Proofs.Avc.Collecting
import WhipWhep.Proofs.Sdp.Normalising
import WhipWhep.Proofs.Sdp.Slicing
import WhipWhep.Proofs.Sdp.Streams
import WhipWhep.Proofs.Sdp.Clocks
import WhipWhep.Proofs.Track.Touching
import WhipWhep.Proofs.Track.Ledger
import WhipWhep.Proofs.Text.Hex
import WhipWhep.Proofs.Media.BitFields
import WhipWhep.Proofs.Media.AudioConfig
import WhipWhep.Proofs.Session.Announcing
import WhipWhep.Proofs.Session.Blaming
import WhipWhep.Proofs.Session.Admission
import WhipWhep.Proofs.Session.Takings
import WhipWhep.Proofs.Session.Lingering
import WhipWhep.Proofs.Avc.Seams
