import SqlGate.Gateway.Instance
import SqlGate.Main
import SqlGate.Metadata.Ddl
import SqlGate.Model.Facade
import SqlGate.Proofs.Gateway.Transactions
import SqlGate.Proofs.Model.Renaming
import SqlGate.Proofs.Query.Parametricity
import SqlGate.Proofs.Query.Placeholders
import SqlGate.Proofs.Metadata.Sharing
import SqlGate.Proofs.Query.Facets
import SqlGate.Proofs.Embedded.RowCount
import SqlGate.Proofs.Query.Written
import SqlGate.Proofs.Query.Legible
import SqlGate.Proofs.Query.Normal
import SqlGate.Proofs.Query.Unambiguous
import SqlGate.Proofs.Query.Counting
import SqlGate.Proofs.Model.Finding
import SqlGate.Proofs.Gateway.OneInstance
import SqlGate.Proofs.Gateway.Acknowledged
import SqlGate.Proofs.Config.Encoded
import SqlGate.Proofs.Url.Files
import SqlGate.Proofs.Config.Files
import SqlGate.Proofs.Embedded.LostCells
import SqlGate.Proofs.Json.Documents
import SqlGate.Proofs.Wire.LostCells
import SqlGate.Proofs.Bytes.Numbers
import SqlGate.Proofs.Calendar.Days
import SqlGate.Proofs.Calendar.Written
import SqlGate.Proofs.Wire.Decimals
import SqlGate.Proofs.Wire.Forms
import SqlGate.Proofs.Wire.Passages
import SqlGate.Proofs.Query.Violations
import SqlGate.Proofs.Query.FirstRow
import SqlGate.Proofs.Embedded.Declarations
import SqlGate.Proofs.Embedded.Upkeep
import SqlGate.Proofs.Embedded.Histories
import SqlGate.Proofs.Embedded.Readers
import SqlGate.Proofs.Json.Cutting
import SqlGate.Proofs.Json.Numbers
import SqlGate.Proofs.Json.Rereading
import SqlGate.Proofs.Values
import SqlGate.Proofs.ValueTexts
import SqlGate.Proofs.ReadBack
import SqlGate.Proofs.Query.CountStatement
import SqlGate.Proofs.Metadata.Descriptions
import SqlGate.Proofs.Metadata.ColumnText
import SqlGate.Proofs.Metadata.TableText
import SqlGate.Proofs.Metadata.Entries
import SqlGate.Proofs.Config.Queries
import SqlGate.Proofs.Gateway.Bounds
import SqlGate.Proofs.Query.Derivable
import SqlGate.Proofs.Text.Literals
import SqlGate.Proofs.Query.OperatorTexts
import SqlGate.Proofs.Model.FieldOrder
import SqlGate.Proofs.Embedded.Describing
