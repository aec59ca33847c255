import Mal.Bindings
import Mal.Broker.Distributor
import Mal.Broker.Recorder
import Mal.Consumer.Consumer
import Mal.Correlation.Correlator
import Mal.Decimal.Reading
import Mal.Decimal.Shortest
import Mal.Directory
import Mal.Instance.Dispatch
import Mal.Json.Brief
import Mal.Json.Parser
import Mal.Json.Settings
import Mal.Message.Message
import Mal.Provider.Echo
import Mal.Provider.Relay
import Mal.Provider.Script
import Mal.Routing
import Mal.Scenario.Report
import Mal.Scenario.Step
import Mal.Scenario.Tables
import Mal.Scenario.World
import Mal.Settings
import Mal.Settings.Layers
import Mal.Settings.Path
import Mal.Settings.Tree
import Mal.Text.Case
import Mal.Toml.Date
import Mal.Toml.Document
import Mal.Proofs.Correlation.ReplyOrder
import Mal.Proofs.Sending
import Mal.Proofs.Starting
import Mal.Proofs.Network.Network
import Mal.Proofs.Network.Traffic
import Mal.Proofs.Network.Orderly
import Mal.Proofs.Network.Requests
import Mal.Proofs.Reactions
import Mal.Proofs.Provider.Answers
import Mal.Proofs.Correlation.Operations
import Mal.Proofs.Correlation.Desk
import Mal.Proofs.Correlation.Listened
import Mal.Proofs.Correlation.Matching
import Mal.Proofs.Provider.Lifetime
import Mal.Proofs.Correlation.Ids
import Mal.Proofs.Correlation.Mailbox
import Mal.Proofs.Correlation.Abandon
import Mal.Proofs.Correlation.Shutdown
import Mal.Proofs.Correlation.Table
import Mal.Proofs.Correlation.Contents
import Mal.Proofs.Correlation.Order
import Mal.Proofs.Dispatch.Called
import Mal.Proofs.Dispatch.Chains
import Mal.Proofs.Provider.Served
import Mal.Proofs.Correlation.Sole
import Mal.Proofs.Routing.Registration
import Mal.Proofs.Correlation.Accepted
import Mal.Proofs.Correlation.Forms
import Mal.Proofs.Correlation.Brought
import Mal.Proofs.Dispatch.Correlated
import Mal.Proofs.Network.Desks
import Mal.Proofs.Network.Failures
import Mal.Proofs.Dispatch.Brokered
import Mal.Proofs.Routing.Tables
import Mal.Proofs.Routing.Rollback
import Mal.Proofs.Routing.Rivals
import Mal.Proofs.Routing.Maps
import Mal.Proofs.Routing.Scopes
import Mal.Proofs.Dispatch.Refused
import Mal.Proofs.Correlation.Idle
import Mal.Proofs.PubSub.Ledger
import Mal.Proofs.PubSub.Parties
import Mal.Proofs.PubSub.Scene
import Mal.Proofs.PubSub.Conversation
import Mal.Proofs.PubSub.Publishing
import Mal.Proofs.PubSub.Delivery
import Mal.Proofs.Correlation.Issued
import Mal.Proofs.Correlation.Commuting
import Mal.Proofs.Dispatch.Frame
import Mal.Proofs.Network.Streams
import Mal.Proofs.Correlation.Language
import Mal.Proofs.Provider.Clones
import Mal.Proofs.Provider.Overlap
import Mal.Proofs.Dispatch.Closed
import Mal.Proofs.Network.Calls
import Mal.Proofs.Correlation.Resuming
import Mal.Proofs.Correlation.Reported
import Mal.Proofs.Correlation.Continued
import Mal.Proofs.Dispatch.Lost
import Mal.Proofs.Correlation.Terminating
import Mal.Proofs.Histories
import Mal.Proofs.Provider.Registry
import Mal.Proofs.Provider.Sources
import Mal.Proofs.Routing.Returning
