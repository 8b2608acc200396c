import SinglePage.RequestPath
import SinglePage.Uri
import SinglePage.Entries
import SinglePage.EnvModule
import SinglePage.Text.Blank
import SinglePage.Text.Digits
import SinglePage.Text.LowerCase
import SinglePage.Text.Quoted
import SinglePage.Decimal.Shortest
import SinglePage.SocketAddress
import SinglePage.Settings
import SinglePage.AssetTree
import SinglePage.FileTree.Change
import SinglePage.Http.Date
import SinglePage.Http.MediaType
import SinglePage.Http.Message
import SinglePage.Http.Range
import SinglePage.Log
import SinglePage.Main
import SinglePage.Site
import SinglePage.Startup
import SinglePage.Proofs.FileTree.Below
import SinglePage.Proofs.RequestPath.Canonical
import SinglePage.Proofs.RequestPath.Walk
import SinglePage.Proofs.RequestPath.Grammar
import SinglePage.Proofs.RequestPath.Composition
import SinglePage.Proofs.DiskPath.Components
import SinglePage.Proofs.FileService.Location
import SinglePage.Proofs.Uri.Rewriting
import SinglePage.Proofs.Uri.Replacement
import SinglePage.Proofs.AssetTree.Lookup
import SinglePage.Proofs.Site.Serving
import SinglePage.Proofs.Site.Answers
import SinglePage.Proofs.Site.Branches
import SinglePage.Proofs.Site.Fallback
import SinglePage.Proofs.Site.Spelling
import SinglePage.Proofs.Site.Confinement
import SinglePage.Proofs.AccessLog.Interleaving
import SinglePage.Proofs.AccessLog.Polling
import SinglePage.Proofs.Site.Framing
import SinglePage.Proofs.Site.Completion
import SinglePage.Proofs.Site.Mounting
import SinglePage.Proofs.Bytes.Order
import SinglePage.Proofs.Bytes.Characters
import SinglePage.Proofs.Percent.Escapes
import SinglePage.Proofs.Json.Object
import SinglePage.Proofs.EnvModule.Export
import SinglePage.Proofs.Site.Reachability
import SinglePage.Proofs.Site.Methods
import SinglePage.Proofs.Site.Failure
import SinglePage.Proofs.Site.HeadRequests
import SinglePage.Proofs.Text.LowerCase
import SinglePage.Proofs.Settings.Assignment
import SinglePage.Proofs.Settings.Separation
import SinglePage.Proofs.Settings.Acceptance
import SinglePage.Proofs.Site.Independence
import SinglePage.Proofs.Site.Lengths
import SinglePage.Proofs.Site.Mountable
import SinglePage.Proofs.AssetTree.RootDocument
import SinglePage.Proofs.Site.RootDocument
