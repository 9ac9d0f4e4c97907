import HttpRouting.Config
import HttpRouting.Error
import HttpRouting.Event
import HttpRouting.Message.Request
import HttpRouting.Message.Target
import HttpRouting.Path
import HttpRouting.Pattern.Basic
import HttpRouting.Pattern.Error
import HttpRouting.Pattern.Parser
import HttpRouting.Proofs.Router.Reachable
import HttpRouting.Proofs.Trie.Priority
import HttpRouting.Request.Basic
import HttpRouting.Route.Basic
import HttpRouting.Route.Table
import HttpRouting.Router.Basic
import HttpRouting.Router.Error
import HttpRouting.Router.Shared
import HttpRouting.Session
import HttpRouting.Text.Blank
import HttpRouting.Text.CodePoints
import HttpRouting.Text.GraphemeExtend
import HttpRouting.Text.Quoted
import HttpRouting.Text.Split
import HttpRouting.Text.Unprintable
import HttpRouting.Text.Utf8
import HttpRouting.Trie.Basic
import HttpRouting.Trie.Search
import HttpRouting.Proofs.Router.Shape
import HttpRouting.Proofs.Router.RouteMap
import HttpRouting.Proofs.Router.Lookup
import HttpRouting.Proofs.Router.BestMatch
import HttpRouting.Proofs.Router.Shadowing
import HttpRouting.Proofs.Pattern.Binding
import HttpRouting.Proofs.Router.Reconstruction
import HttpRouting.Proofs.Trie.Extensionality
import HttpRouting.Proofs.Router.Extensionality
import HttpRouting.Proofs.Router.HeadFallback
import HttpRouting.Proofs.Router.Contents
import HttpRouting.Proofs.Router.Order
import HttpRouting.Proofs.Text.Fields
import HttpRouting.Proofs.Pattern.Reading
import HttpRouting.Proofs.Pattern.Exemplar
import HttpRouting.Proofs.Pattern.WellFormed
import HttpRouting.Proofs.Pattern.Grammar
import HttpRouting.Proofs.Pattern.RoundTrip
import HttpRouting.Proofs.Router.Inclusion
import HttpRouting.Proofs.Router.Export
import HttpRouting.Proofs.Session.Runs
import HttpRouting.Proofs.Session.Refusals
import HttpRouting.Proofs.Router.Diversion
import HttpRouting.Proofs.Text.ByteOrder
import HttpRouting.Proofs.Router.Introspection
import HttpRouting.Proofs.Session.Transcript
import HttpRouting.Proofs.Session.Sharing
import HttpRouting.Proofs.Text.Cuts
import HttpRouting.Proofs.Request.Forms
import HttpRouting.Proofs.Router.Building
import HttpRouting.Proofs.Pattern.FirstFault
import HttpRouting.Proofs.Router.Entry
import HttpRouting.Proofs.Text.Quoting
import HttpRouting.Proofs.Router.Messages
import HttpRouting.Proofs.Request.Ports
