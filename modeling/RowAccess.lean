import RowAccess.Wire.Http
import RowAccess.Proofs.Session.Evidence
import RowAccess.Proofs.Session.Pushdown
import RowAccess.Proofs.Session.Resolution
import RowAccess.Proofs.Guard.Omission
import RowAccess.Proofs.Guard.Compound
import RowAccess.Proofs.Guard.History
import RowAccess.Proofs.Token.Order
import RowAccess.Proofs.Token.Simulation
import RowAccess.Proofs.Guard.Staging
import RowAccess.Proofs.Guard.Discipline
import RowAccess.Proofs.Guard.Atomicity
import RowAccess.Proofs.Guard.Overlap
import RowAccess.Proofs.Session.Superuser
import RowAccess.Proofs.Identity.Resource
import RowAccess.Proofs.Session.Separation
import RowAccess.Proofs.Config.Conversion
import RowAccess.Proofs.Guard.Report
import RowAccess.Proofs.Collection.Nesting
import RowAccess.Proofs.Collection.Union
import RowAccess.Proofs.Decision.Relation
import RowAccess.Proofs.Session.Fallback
import RowAccess.Proofs.Http.Admission
import RowAccess.Proofs.Http.Disclosure
import RowAccess.Proofs.Record.Comparison
import RowAccess.Proofs.Record.Path
import RowAccess.Proofs.Config.CustomLabel
import RowAccess.Proofs.Config.Effect
import RowAccess.Proofs.Store.Timestamp
import RowAccess.Proofs.Time.Reading
import RowAccess.Proofs.Scope.Acceptance
import RowAccess.Proofs.Config.AuditPath
