import JsonSchema.Main
import JsonSchema.Schema.Builder
import JsonSchema.Schema.Memo
import JsonSchema.Proofs.Evaluation.ShortCircuit
import JsonSchema.Proofs.Evaluation.Verdict
import JsonSchema.Proofs.Writing.Reload
import JsonSchema.Proofs.Places.Failures
import JsonSchema.Proofs.Coercion.Idempotence
import JsonSchema.Proofs.Coercion.Trimming
import JsonSchema.Proofs.Recursion.Unfolding
import JsonSchema.Proofs.Building.Everywhere
import JsonSchema.Proofs.Building.Candid
import JsonSchema.Proofs.Building.Links
import JsonSchema.Proofs.Building.Marks
import JsonSchema.Proofs.Building.Tree
import JsonSchema.Proofs.Reloading.Agreement
import JsonSchema.Proofs.Building.Confinement
import JsonSchema.Proofs.Evaluation.Calls
import JsonSchema.Proofs.Recursion.Hops
import JsonSchema.Proofs.Reordering.Equality
import JsonSchema.Proofs.Reordering.References
import JsonSchema.Proofs.Reloading.Equivalence
import JsonSchema.Proofs.Evaluation.Formats
import JsonSchema.Proofs.Evaluation.Rejections
import JsonSchema.Proofs.Evaluation.Unsupported
import JsonSchema.Proofs.Evaluation.Relocation
import JsonSchema.Proofs.Parsing.Supplied
import JsonSchema.Proofs.Parsing.Again
import JsonSchema.Proofs.Parsing.Seeds
import JsonSchema.Proofs.Indexing.Freshness
import JsonSchema.Proofs.Indexing.Pointers
import JsonSchema.Proofs.Indexing.Walks
import JsonSchema.Proofs.Building.Strictness
import JsonSchema.Proofs.Canonical.Equality
import JsonSchema.Proofs.Embedding.Making
import JsonSchema.Proofs.Walking.Preorder
import JsonSchema.Proofs.Recursion.Sooner
import JsonSchema.Proofs.Coercion.Opening
import JsonSchema.Proofs.Coercion.Undeclared
import JsonSchema.Proofs.Coercion.Provenance
import JsonSchema.Proofs.Loading.Culprits
import JsonSchema.Proofs.Indexing.References
import JsonSchema.Proofs.Places.Codec
import JsonSchema.Proofs.Places.Denotation
import JsonSchema.Proofs.Embedding.Properties
import JsonSchema.Proofs.Recursion.Occurrences
import JsonSchema.Proofs.Embedding.Requiring
import JsonSchema.Proofs.Coercion.Integers
import JsonSchema.Proofs.Evaluation.Multiples
import JsonSchema.Proofs.Evaluation.Bounds
import JsonSchema.Proofs.Canonical.Normalization
import JsonSchema.Proofs.Canonical.Numbers
import JsonSchema.Proofs.Yaml.Entries
