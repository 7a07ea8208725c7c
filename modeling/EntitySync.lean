import EntitySync.Stream.Error
import EntitySync.Stream.Word
import EntitySync.Stream.Varint
import EntitySync.Stream.Cursor
import EntitySync.Stream.ByteReader
import EntitySync.Stream.Buffer
import EntitySync.Text.Utf8
import EntitySync.FieldBlock.Mask
import EntitySync.FieldBlock.Writer
import EntitySync.FieldBlock.Reader
import EntitySync.Text.Hex
import EntitySync.Frame.Limits
import EntitySync.Frame.Section
import EntitySync.Frame.Error
import EntitySync.Frame.Header
import EntitySync.Frame.Message
import EntitySync.Frame.ConfigStrings
import EntitySync.Float.Format
import EntitySync.Float.Binary64
import EntitySync.Float.Shortest
import EntitySync.Float.Binary32
import EntitySync.Float.Half
import EntitySync.Float.Angle
import EntitySync.Hash.Blake3
import EntitySync.Schema.Kind
import EntitySync.Schema.Basic
import EntitySync.Schema.Fingerprint
import EntitySync.Entity.Value
import EntitySync.Snapshot.Tick
import EntitySync.Baseline.Store
import EntitySync.Baseline.Ring
import EntitySync.Codec.Error
import EntitySync.Entity.State
import EntitySync.Snapshot.Basic
import EntitySync.Codec.Limits
import EntitySync.Codec.Fields
import EntitySync.Codec.Body
import EntitySync.Codec.Message
import EntitySync.Json.Value
import EntitySync.Json.Token
import EntitySync.Text.Quote
import EntitySync.Document.Reader
import EntitySync.Json.Print
import EntitySync.Json.Parse
import EntitySync.Request.Basic
import EntitySync.Request.Diagnostic
import EntitySync.Request.Values
import EntitySync.Request.Bitstream
import EntitySync.Request.Wire
import EntitySync.Request.Schema
import EntitySync.Request.Codec
import EntitySync.Session.Table
import EntitySync.Session.Sender
import EntitySync.Session.Receiver
import EntitySync.Request.Session
import EntitySync.Demo.Error
import EntitySync.Demo.Config
import EntitySync.Demo.Source
import EntitySync.Demo.Metadata
import EntitySync.Demo.Recorder
import EntitySync.Demo.Player
import EntitySync.Demo.Playback
import EntitySync.Inspect.Report
import EntitySync.Inspect.Text
import EntitySync.Inspect.Json
import EntitySync.Inspect.Assignment
import EntitySync.Request.Demo
import EntitySync.Request.Answer
import EntitySync.Document.Schema
import EntitySync.Cli.Files
import EntitySync.Cli.Glob
import EntitySync.Cli.Similarity
import EntitySync.Cli.Arguments
import EntitySync.Cli.Run
import EntitySync.Request.Tool
import EntitySync.Main
import EntitySync.Proofs.Encoders
import EntitySync.Proofs.Body
import EntitySync.Proofs.FieldLayout
import EntitySync.Proofs.BodyLayout
import EntitySync.Proofs.CodeGrammar
import EntitySync.Proofs.FieldGrammar
import EntitySync.Proofs.Frame
import EntitySync.Proofs.Message
import EntitySync.Proofs.Session
import EntitySync.Proofs.Replication
import EntitySync.Proofs.Baseline
import EntitySync.Proofs.ConfigDelivery
import EntitySync.Proofs.Recording
import EntitySync.Proofs.Replay
import EntitySync.Proofs.AtomicApply
import EntitySync.Proofs.ConfigTable
import EntitySync.Proofs.WireWriters
import EntitySync.Proofs.SenderRefinement
import EntitySync.Proofs.PrefixCode
import EntitySync.Proofs.SelfDelimiting
import EntitySync.Proofs.BlockProtocol
import EntitySync.Proofs.BufferCalls
import EntitySync.Proofs.BufferRoundTrip
import EntitySync.Proofs.MetadataRecord
import EntitySync.Proofs.VarintReads
import EntitySync.Proofs.MetadataRewrite
import EntitySync.Proofs.Inspection
import EntitySync.Proofs.StickyErrors
