import RequestBinding.Binder.Basic
import RequestBinding.Logging.Start
import RequestBinding.Proofs.Binder.ContentTypes
import RequestBinding.Proofs.Binder.Counters
import RequestBinding.Proofs.Binder.Methods
import RequestBinding.Proofs.Binder.ResultTypes
import RequestBinding.Proofs.Binder.Views
import RequestBinding.Proofs.Jobs.Delivery
import RequestBinding.Proofs.Jobs.Registration
import RequestBinding.Proofs.Params.Additions
import RequestBinding.Proofs.Params.Described
import RequestBinding.Proofs.Params.Queries
import RequestBinding.Proofs.Params.RoundTrip
import RequestBinding.Proofs.Params.Splitting
import RequestBinding.Proofs.Resolver.Includes
import RequestBinding.Proofs.Resolver.Required
import RequestBinding.Proofs.Route.Acceptance
import RequestBinding.Proofs.Route.Appending
import RequestBinding.Proofs.Route.Filling
import RequestBinding.Proofs.Route.SingleTemplate
import RequestBinding.Proofs.Settings.KindVariables
import RequestBinding.Proofs.Settings.Layers
import RequestBinding.Proofs.Settings.Starting
import RequestBinding.Proofs.Template.Grammar
import RequestBinding.Proofs.V3.Nesting
import RequestBinding.Proofs.V3.UserLookup
import RequestBinding.Settings.Loader
