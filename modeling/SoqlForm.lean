import SoqlForm.Document.Appraisal
import SoqlForm.Document.Entity
import SoqlForm.Document.Settings
import SoqlForm.Session.Run
import SoqlForm.Proofs.Catalog.Index
import SoqlForm.Proofs.Comparison
import SoqlForm.Proofs.Document.Service
import SoqlForm.Proofs.Document.Settings
import SoqlForm.Proofs.Filter.Revision
import SoqlForm.Proofs.Literal.Bare
import SoqlForm.Proofs.Query.Core
import SoqlForm.Proofs.Query.Filtering
import SoqlForm.Proofs.Query.Reading
import SoqlForm.Proofs.Query.Review
import SoqlForm.Proofs.Query.Summary
import SoqlForm.Proofs.ResultSet
import SoqlForm.Proofs.Session.Analysis
import SoqlForm.Proofs.Session.Anew
import SoqlForm.Proofs.Session.Columns
import SoqlForm.Proofs.Session.Conditions
import SoqlForm.Proofs.Session.Failures
import SoqlForm.Proofs.Session.LateFields
import SoqlForm.Proofs.Session.Limit
import SoqlForm.Proofs.Session.Mirror
import SoqlForm.Proofs.Session.NoFields
import SoqlForm.Proofs.Session.Parts
import SoqlForm.Proofs.Session.Rendered
import SoqlForm.Proofs.Session.Results
import SoqlForm.Proofs.Session.SelectList
import SoqlForm.Proofs.Session.Selection
import SoqlForm.Proofs.Session.Tips
import SoqlForm.Proofs.Session.Version
import SoqlForm.Proofs.Text.Timestamp
