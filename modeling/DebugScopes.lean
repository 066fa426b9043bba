import DebugScopes.Main
import DebugScopes.Proofs.Bytes.Requests
import DebugScopes.Proofs.Bytes.Texts
import DebugScopes.Proofs.CommandLine.Report
import DebugScopes.Proofs.Decoding.Anew
import DebugScopes.Proofs.Decoding.Cursors
import DebugScopes.Proofs.Decoding.EntryPoint
import DebugScopes.Proofs.Decoding.NameOrigins
import DebugScopes.Proofs.Decoding.RangeLists
import DebugScopes.Proofs.Decoding.Section
import DebugScopes.Proofs.Decoding.WellFormed
import DebugScopes.Proofs.Image.Respelling
import DebugScopes.Proofs.Image.Saving
import DebugScopes.Proofs.Image.UnseenTail
import DebugScopes.Proofs.Assembly.Roundtrip
import DebugScopes.Proofs.MapFile.RoundTrip
import DebugScopes.Proofs.MapFile.Readable
import DebugScopes.Proofs.Session.ByteOrder
import DebugScopes.Proofs.Session.Overrides
import DebugScopes.Proofs.Session.Restart
import DebugScopes.Proofs.Session.Warnings
import DebugScopes.Proofs.Tree.Catalogue
import DebugScopes.Proofs.Tree.Labels
import DebugScopes.Proofs.Tree.Scopes
