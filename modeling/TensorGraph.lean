import TensorGraph.Graph.Command
import TensorGraph.Host.Session
import TensorGraph.Tensor.Storage
import TensorGraph.Proofs.AxisSet
import TensorGraph.Proofs.Shape
import TensorGraph.Proofs.Coordinates
import TensorGraph.Proofs.Strides
import TensorGraph.Proofs.Reduction.Odometer
import TensorGraph.Proofs.Reduction.Kernel
import TensorGraph.Proofs.Reduction.Slots
import TensorGraph.Proofs.Reduction.Words
import TensorGraph.Proofs.Reduction.Fold
import TensorGraph.Proofs.Integers
import TensorGraph.Proofs.Reduction.Composition
import TensorGraph.Proofs.Reduction.Mean
import TensorGraph.Proofs.Reduction.Extremes
import TensorGraph.Proofs.NonMaxSuppression.Pieces
import TensorGraph.Proofs.NonMaxSuppression.Count
import TensorGraph.Proofs.Floating.Format
import TensorGraph.Proofs.Floating.Rounding
import TensorGraph.Proofs.Floating.Arithmetic
import TensorGraph.Proofs.Floating.Exponential
import TensorGraph.Proofs.NonMaxSuppression.Queue
import TensorGraph.Proofs.NonMaxSuppression.Turns
import TensorGraph.Proofs.NonMaxSuppression.Classes
import TensorGraph.Proofs.NonMaxSuppression.Safety
import TensorGraph.Proofs.NonMaxSuppression.Greedy
import TensorGraph.Proofs.NonMaxSuppression.Decay
import TensorGraph.Proofs.NonMaxSuppression.Independence
import TensorGraph.Proofs.NonMaxSuppression.Clear
import TensorGraph.Proofs.Tensor
import TensorGraph.Proofs.Encoding
import TensorGraph.Proofs.Graph.Evaluation
import TensorGraph.Proofs.Graph.InPlace
import TensorGraph.Proofs.Graph.WellFormed
import TensorGraph.Proofs.Graph.Relinking
import TensorGraph.Proofs.Graph.Mutation
import TensorGraph.Proofs.Graph.PostOrder
import TensorGraph.Proofs.Graph.Meaning
import TensorGraph.Proofs.Graph.Execution
import TensorGraph.Proofs.Graph.Replacement
import TensorGraph.Proofs.Graph.ConstantFolding
import TensorGraph.Proofs.Graph.Typed
import TensorGraph.Proofs.Graph.Conformance
import TensorGraph.Proofs.Graph.EmptyReduction
import TensorGraph.Proofs.Graph.ComputedShapes
import TensorGraph.Proofs.Graph.Declining
import TensorGraph.Proofs.Graph.Packing
import TensorGraph.Proofs.Graph.RecordedAxes
import TensorGraph.Proofs.Graph.Handling
import TensorGraph.Proofs.Storage
import TensorGraph.Proofs.Graph.Progress
import TensorGraph.Proofs.Graph.Cloning
import TensorGraph.Proofs.Graph.Cutting
import TensorGraph.Proofs.Graph.HiddenFailures
import TensorGraph.Proofs.Graph.Names
import TensorGraph.Proofs.Graph.Growth
import TensorGraph.Proofs.Graph.Substitution
import TensorGraph.Proofs.Graph.Redirection
import TensorGraph.Proofs.Graph.Retiring
import TensorGraph.Proofs.Graph.Preparation
import TensorGraph.Proofs.Graph.Interceptors
import TensorGraph.Proofs.Graph.Interception
import TensorGraph.Proofs.Host.Steps
import TensorGraph.Proofs.Host.Arguments
import TensorGraph.Proofs.Host.Building
import TensorGraph.Proofs.Host.Delivery
import TensorGraph.Proofs.Graph.Messages
import TensorGraph.Proofs.Host.Messages
import TensorGraph.Proofs.Host.LastError
