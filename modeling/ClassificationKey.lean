import ClassificationKey.Json.Form
import ClassificationKey.Json.Reader
import ClassificationKey.Key
import ClassificationKey.Proofs.Classification.Attributes
import ClassificationKey.Proofs.Classification.Dichotomy
import ClassificationKey.Proofs.Classification.Endless
import ClassificationKey.Proofs.Classification.Extension
import ClassificationKey.Proofs.Classification.Rearranged
import ClassificationKey.Proofs.Classification.UndefinedRule
import ClassificationKey.Proofs.Comparison
import ClassificationKey.Proofs.FloatText
import ClassificationKey.Proofs.Graph.Detached
import ClassificationKey.Proofs.Graph.Position
import ClassificationKey.Proofs.Graph.Root
import ClassificationKey.Proofs.Json.RoundTrip
import ClassificationKey.Proofs.RuleSet.Completion
import ClassificationKey.Proofs.RuleSet.Compound
import ClassificationKey.Proofs.RuleSet.Table
