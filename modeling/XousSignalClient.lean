import XousSignalClient.MainWs.Content
import XousSignalClient.Send.Status
import XousSignalClient.Interaction.Fallible
import XousSignalClient.MainWs.RoundTrip
import XousSignalClient.Send.Devices
import XousSignalClient.Send.Retry
import XousSignalClient.Interaction.Ensures
import XousSignalClient.Send.Trace
import XousSignalClient.Send.Repair
import XousSignalClient.Send.Runs
import XousSignalClient.Interaction.Splitting
import XousSignalClient.Send.Outcome
import XousSignalClient.Send.World
import XousSignalClient.Send.FanOut
import XousSignalClient.Send.Honest
import XousSignalClient.Send.Rounds
import XousSignalClient.Send.Converge
import XousSignalClient.Send.Recover
import XousSignalClient.Send.SyncConverge
import XousSignalClient.Encoding.Base64
import XousSignalClient.Encoding.Json
import XousSignalClient.Libsignal
import XousSignalClient.Send.Reference
import XousSignalClient.Send.Accounts
import XousSignalClient.Outgoing.Recipient
import XousSignalClient.Peers
import XousSignalClient.MainWs.Deliver
import XousSignalClient.MainWs.Dispatch
import XousSignalClient.MainWs.Transcript
import XousSignalClient.Conversation
import XousSignalClient.Account.Link
import XousSignalClient.Account.Restart
import XousSignalClient.Interaction.Interleaving
import XousSignalClient.Threads.Jobs
import XousSignalClient.Threads.Sessions
import XousSignalClient.Interaction.Interference
import XousSignalClient.Prekeys.Replenish
import XousSignalClient.Faults
import XousSignalClient.Prekeys.Stock
import XousSignalClient.Prekeys.Cycles
import XousSignalClient.Prekeys.Runs
import XousSignalClient.Account.Interrupted
import XousSignalClient.Interaction.History
import XousSignalClient.Provisioning.Worker
import XousSignalClient.Provisioning.Protocol
import XousSignalClient.Provisioning.Runs
import XousSignalClient.Wifi.Observer
import XousSignalClient.Wifi.Flaps
import XousSignalClient.Provisioning.Attempts
import XousSignalClient.Provisioning.StaleCid
import XousSignalClient.Provisioning.Messages
import XousSignalClient.Provisioning.Cipher
import XousSignalClient.Threads.Dialogues
import XousSignalClient.Interaction.Transactions
import XousSignalClient.Peers.Records
import XousSignalClient.Threads.Summaries
import XousSignalClient.Encoding.Escape
import XousSignalClient.Peers.Unread
import XousSignalClient.MainWs.Slices
import XousSignalClient.Interaction.Contract
import XousSignalClient.Send.Transient
import XousSignalClient.Send.Bundles
import XousSignalClient.Pddb.Calls
import XousSignalClient.Prekeys.Kyber
import XousSignalClient.Account.Fresh
import XousSignalClient.Account.Cache
import XousSignalClient.MainWs.Sealed
import XousSignalClient.Encoding.Fields
import XousSignalClient.MainWs.Frames
import XousSignalClient.MainWs.Session
import XousSignalClient.MainWs.Keepalive
import XousSignalClient.MainWs.Acknowledge
import XousSignalClient.Send.Legs
import XousSignalClient.Send.TranscriptLeg
import XousSignalClient.Send.Frame
import XousSignalClient.Encoding.Counter
import XousSignalClient.Account.DeviceName
import XousSignalClient.Interaction.Latest
import XousSignalClient.SessionStore.Histories
import XousSignalClient.Outgoing.Pointers
import XousSignalClient.Outgoing.Seed
import XousSignalClient.Peers.Picker
import XousSignalClient.Peers.RoundTrip
import XousSignalClient.Pddb.Identities
import XousSignalClient.Prekeys.Generate
import XousSignalClient.Prekeys.Uploaded
import XousSignalClient.Encoding.Marker
import XousSignalClient.MainWs.Padding
import XousSignalClient.Peers.Snippets
import XousSignalClient.Getrandom
import XousSignalClient.Getrandom.Vendored
import XousSignalClient.Wifi.Callbacks
import XousSignalClient.SigChat.MainLoop
import XousSignalClient.SigChat.Focus
import XousSignalClient.SigChat.Setup
import XousSignalClient.Interaction.Yields
import XousSignalClient.SigChat.Linking
import XousSignalClient.SigChat.Online
import XousSignalClient.Interaction.Embedding
import XousSignalClient.MainWs.SignalWs
import XousSignalClient.MainWs.Reconnect
import XousSignalClient.MainWs.Deliveries
import XousSignalClient.Encoding.BasicAuth
import XousSignalClient.SigChat.Credentials
import XousSignalClient.Interaction.Simulation
import XousSignalClient.Pddb.Stores
import XousSignalClient.Encoding.JsonValue
import XousSignalClient.Rest
import XousSignalClient.Account.EncryptedName
import XousSignalClient.Delivery
import XousSignalClient.Send.Submit
import XousSignalClient.Wifi.Wakeups
import XousSignalClient.Encoding.FormUrlencoded
import XousSignalClient.Provisioning.Handshake
import XousSignalClient.SigChat.Reactions
