import Portcullis.Audit.Retention
import Portcullis.Audit.Concurrent
import Portcullis.Gateway.Isolation
import Portcullis.Gateway.ListLeak
import Portcullis.Gateway.Grants
import Portcullis.Gateway.SessionClaim
import Portcullis.Gateway.AuditStorage
import Portcullis.Gateway.SessionHandout
import Portcullis.Limits.OneLimit
import Portcullis.Gateway.IdentitySharing
import Portcullis.Auth.FederatedIdentity
import Portcullis.Auth.FederationRace
import Portcullis.Auth.Escalation
import Portcullis.Gateway.RegistryRace
import Portcullis.Gateway.StdioBridge
import Portcullis.Auth.InviteRace
import Portcullis.Auth.OwnerBootstrap
import Portcullis.Audit.RootBinding
import Portcullis.Limits.BucketClock
import Portcullis.Limits.Remaining
import Portcullis.Limits.PreAuth
import Portcullis.Limits.Resolution
import Portcullis.Gateway.ManagementRoutes
import Portcullis.Gateway.ListAgreement
import Portcullis.Gateway.MonthlyCap
import Portcullis.Metering.Shutdown
import Portcullis.Metering.FlushFailure
import Portcullis.Audit.ReplayRace
import Portcullis.Observability.Redact
import Portcullis.Auth.LicenseKeys
import Portcullis.Audit.DeadLetter
import Portcullis.Gateway.ProbedEndpoints
import Portcullis.Gateway.SlugConflicts
import Portcullis.Auth.Specificity
import Portcullis.Auth.DefaultRoles
import Portcullis.Limits.KeyFraming
