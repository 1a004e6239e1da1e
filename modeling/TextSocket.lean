import TextSocket.Connection.Session
import TextSocket.Dial
import TextSocket.Inbound
import TextSocket.Listener
import TextSocket.Proofs.Connection.Pair
import TextSocket.Proofs.Connection.Transcript
import TextSocket.Proofs.Base64
import TextSocket.Proofs.Config.Export
import TextSocket.Proofs.Header.Spelling
import TextSocket.Proofs.Http.Request
import TextSocket.Proofs.Inbound.Upgrade
import TextSocket.Proofs.Http.Target
import TextSocket.Proofs.Http.Response
import TextSocket.Proofs.Upgrade.Offer
import TextSocket.Proofs.Upgrade.Handshake
import TextSocket.Proofs.Socket.Broken
import TextSocket.Proofs.Socket.Ending
import TextSocket.Proofs.Connection.Ending
import TextSocket.Proofs.Connection.Aftermath
import TextSocket.Proofs.Connection.Recovery
import TextSocket.Proofs.Connection.Separation
import TextSocket.Proofs.Upgrade.Admission
import TextSocket.Proofs.Inbound.Request
import TextSocket.Proofs.Connection.Farewell
import TextSocket.Proofs.Connection.Leftover
import TextSocket.Proofs.Config.Normal
import TextSocket.Proofs.Config.Reload
import TextSocket.Proofs.Inbound.Extent
import TextSocket.Proofs.Upgrade.Merge
import TextSocket.Proofs.Inbound.Search
import TextSocket.Proofs.Inbound.Replies
import TextSocket.Proofs.Upgrade.Spread
import TextSocket.Proofs.Config.Load
