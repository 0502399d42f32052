import AccessConsole.Hierarchy.Links
import AccessConsole.Main
import AccessConsole.Proofs.CommandLine.ApiRoot
import AccessConsole.Proofs.Gateway.Authority
import AccessConsole.Proofs.Gateway.EndpointList
import AccessConsole.Proofs.Gateway.Freshness
import AccessConsole.Proofs.Gateway.Mirror
import AccessConsole.Proofs.Gateway.Secrecy
import AccessConsole.Proofs.Gateway.SignIn
import AccessConsole.Proofs.Gateway.Status
import AccessConsole.Proofs.Hierarchy.Descendants
import AccessConsole.Proofs.Hierarchy.Nesting
import AccessConsole.Proofs.Hierarchy.Rebuild
import AccessConsole.Proofs.Paging
import AccessConsole.Proofs.Rehearsal.Outage
import AccessConsole.Proofs.Rehearsal.Report
import AccessConsole.Proofs.Resource.Bearer
import AccessConsole.Proofs.Resource.Models
import AccessConsole.Proofs.Resource.Recognition
import AccessConsole.Proofs.Session.CutShort
import AccessConsole.Proofs.Store.Atomicity
import AccessConsole.Proofs.Store.Permissions
