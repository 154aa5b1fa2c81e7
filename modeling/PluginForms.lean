import PluginForms.Form.Coding
import PluginForms.Form.Handler
import PluginForms.Plugin.Name.Constant
import PluginForms.Provider.Coding
import PluginForms.Url.Standard
import PluginForms.Proofs.Selector.Unambiguous
import PluginForms.Proofs.Selector.Reading
import PluginForms.Proofs.Selector.Writing
import PluginForms.Proofs.Selector.Faults
import PluginForms.Proofs.Catalog.Lookup
import PluginForms.Proofs.Plugin.Success
import PluginForms.Proofs.Selector.Evaluation
import PluginForms.Proofs.Selector.Steps
import PluginForms.Proofs.Selector.Calls
import PluginForms.Proofs.Alias.View
import PluginForms.Proofs.Alias.Application
import PluginForms.Proofs.Alias.RoundTrip
import PluginForms.Proofs.Text.Cuts
import PluginForms.Proofs.Selector.Lists
import PluginForms.Proofs.Alias.Stability
import PluginForms.Proofs.Alias.Joining
import PluginForms.Proofs.Catalog.Stability
import PluginForms.Proofs.Provider.Composed
import PluginForms.Proofs.Provider.Agreement
import PluginForms.Proofs.Provider.Expansion
import PluginForms.Proofs.Provider.Domain
import PluginForms.Proofs.Provider.Identity
import PluginForms.Proofs.Provider.Boundary
import PluginForms.Proofs.Provider.Translation
import PluginForms.Proofs.Form.Session
import PluginForms.Proofs.Form.Validation
import PluginForms.Proofs.Form.Stability
import PluginForms.Proofs.Provider.Renaming
import PluginForms.Proofs.Alias.Skipping
import PluginForms.Proofs.Provider.Declaration
import PluginForms.Proofs.Provider.Collection
import PluginForms.Proofs.Alias.Anchoring
import PluginForms.Proofs.Alias.Rewriting
import PluginForms.Proofs.Alias.Grammar
import PluginForms.Proofs.Form.Distinct
import PluginForms.Proofs.Catalog.Algebra
import PluginForms.Proofs.Form.Loading
import PluginForms.Proofs.Form.Delegation
import PluginForms.Proofs.Catalog.Circulation
import PluginForms.Proofs.Selector.Stability
import PluginForms.Proofs.Plugin.Constant
import PluginForms.Proofs.Text.Partition
import PluginForms.Proofs.Scan.Entries
import PluginForms.Proofs.Scan.Safety
