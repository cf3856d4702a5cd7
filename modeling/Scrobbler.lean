import Scrobbler.Binary64.Arith
import Scrobbler.Binary64.Basic
import Scrobbler.Binary64.Shortest
import Scrobbler.Binary64.Text
import Scrobbler.Cli.Args
import Scrobbler.Cli.Log
import Scrobbler.Cli.Run
import Scrobbler.Config
import Scrobbler.Digest.Md5
import Scrobbler.Handler
import Scrobbler.Hook
import Scrobbler.Json.Cursor
import Scrobbler.Json.Decode
import Scrobbler.Json.Error
import Scrobbler.Json.Parse
import Scrobbler.Json.Record
import Scrobbler.Json.Scalar
import Scrobbler.Json.Value
import Scrobbler.Main
import Scrobbler.Pattern.Automaton
import Scrobbler.Pattern.CharSet
import Scrobbler.Pattern.Error
import Scrobbler.Pattern.Hir
import Scrobbler.Pattern.Parse
import Scrobbler.Pattern.Regex
import Scrobbler.Player.Event
import Scrobbler.Player.Metadata
import Scrobbler.Player.Track
import Scrobbler.Policy
import Scrobbler.Service.Answer
import Scrobbler.Service.Basic
import Scrobbler.Service.Client
import Scrobbler.Service.Form
import Scrobbler.Submission
import Scrobbler.Text.Alphanumeric
import Scrobbler.Text.Blank
import Scrobbler.Text.CodeRanges
import Scrobbler.Text.Debug
import Scrobbler.Text.Integer
import Scrobbler.Text.Lines
import Scrobbler.Text.Lowercase
import Scrobbler.Text.Printable
import Scrobbler.Proofs.Handle
import Scrobbler.Proofs.Lines
import Scrobbler.Proofs.MetadataFields
import Scrobbler.Proofs.MetadataBlock
import Scrobbler.Proofs.Hook
import Scrobbler.Proofs.Binary64Sign
import Scrobbler.Proofs.Eligibility
import Scrobbler.Proofs.StrictReading
import Scrobbler.Proofs.Signing
import Scrobbler.Proofs.IntegerFields
import Scrobbler.Proofs.Failure
import Scrobbler.Proofs.TrackReading
import Scrobbler.Proofs.ConfigResolution
import Scrobbler.Proofs.ScrobbleVerdict
import Scrobbler.Proofs.SignatureOrder
