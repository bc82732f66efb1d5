import DocumentStore.Database.Host
import DocumentStore.Proofs.Database.AssignedIds
import DocumentStore.Proofs.Database.Batch
import DocumentStore.Proofs.Database.Ids
import DocumentStore.Proofs.Database.Independence
import DocumentStore.Proofs.Database.NoTrace
import DocumentStore.Proofs.Database.Ownership
import DocumentStore.Proofs.Database.Reopen
import DocumentStore.Proofs.Database.Selection
import DocumentStore.Proofs.Table.Damage
import DocumentStore.Value.Literal
import DocumentStore.Proofs.Double.Rounding
import DocumentStore.Proofs.Value.Equality
import DocumentStore.Proofs.Predicate.Operand
import DocumentStore.Proofs.Predicate.Evaluation
import DocumentStore.Proofs.Predicate.Coherence
import DocumentStore.Proofs.Value.Numbers
import DocumentStore.Proofs.Predicate.Numbers
import DocumentStore.Proofs.Database.Queries
import DocumentStore.Proofs.Predicate.Keys
import DocumentStore.Proofs.Database.Burning
import DocumentStore.Proofs.Database.Loading
import DocumentStore.Proofs.Table.Parts
import DocumentStore.Proofs.Table.Storage
import DocumentStore.Proofs.Record.Path
import DocumentStore.Proofs.Database.Storability
import DocumentStore.Proofs.Database.Retrieval
import DocumentStore.Proofs.Json.Tree
