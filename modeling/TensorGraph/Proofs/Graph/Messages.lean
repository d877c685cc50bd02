import TensorGraph.Graph.Preparation
import TensorGraph.Proofs.Traversal

/-! The texts of the errors of a graph hold no NUL character.

They are made of fixed words, numbers, and the names of element types and operations. The one error
that holds a text of a caller is about the name that a node is given.
-/

namespace TensorGraph

-----------------------------------------------------------------------------------------
-- Texts
-----------------------------------------------------------------------------------------

/-- A text holds no NUL character. -/
def NulFree (text : String) : Prop :=
  '\x00' ∉ text.toList

/-- A fixed text is examined character by character. -/
theorem NulFree.fixed {characters : List Char}
    (clean : (characters.all fun character => character != '\x00') = true)
    : NulFree (String.ofList characters) := by
  rw [NulFree, String.toList_ofList]
  intro member
  exact absurd (List.all_eq_true.mp clean _ member) (by decide)

theorem NulFree.append {first second : String} (left : NulFree first) (right : NulFree second)
    : NulFree (first ++ second) := by
  rw [NulFree, String.toList_append, List.mem_append]
  exact fun member => member.elim left right

/-- The text of a number is made of digits. -/
theorem NulFree.natural (number : Nat) : NulFree (toString number) := by
  rw [NulFree, Nat.toString_eq_repr, Nat.toList_repr]
  intro member
  exact absurd (Nat.isDigit_of_mem_toDigits (by decide) (by decide) member) (by decide)

theorem NulFree.integer (number : Int) : NulFree (toString number) := by
  cases number with
  | ofNat natural => exact .natural natural
  | negSucc natural => exact .append (.fixed rfl) (.natural (natural + 1))

/-- Texts are joined by a comma and a blank, by list induction. -/
theorem nulFree_commaSeparated (numbers : List Nat) : NulFree (commaSeparated numbers) := by
  unfold commaSeparated
  induction numbers with
  | nil => exact .fixed rfl
  | cons number rest ih =>
      cases rest with
      | nil => exact .natural number
      | cons next others =>
          rw [List.map_cons, List.map_cons, String.intercalate_cons_cons, ← List.map_cons]
          exact .append (.append (.natural number) (.fixed rfl)) ih

theorem nulFree_bracketed (numbers : List Nat) : NulFree (bracketed numbers) :=
  .append (.append (.fixed rfl) (nulFree_commaSeparated numbers)) (.fixed rfl)

theorem DType.nulFree_name (dtype : DType) : NulFree dtype.name := by
  cases dtype <;> exact .fixed rfl

theorem Shape.nulFree_render (shape : Shape) : NulFree shape.render :=
  nulFree_bracketed shape.dims

theorem TensorDesc.nulFree_render (desc : TensorDesc) : NulFree desc.render :=
  .append desc.dtype.nulFree_name desc.shape.nulFree_render

theorem NodeId.nulFree_render (id : NodeId) : NulFree (NodeId.render id) :=
  .append (.fixed rfl) (.natural id)

theorem Output.nulFree_render (output : Output) : NulFree output.render :=
  .append (.append (NodeId.nulFree_render output.node) (.fixed rfl)) (.natural output.index)

theorem OpType.nulFree_render {info : OpType} (named : NulFree info.name)
    : NulFree info.render :=
  .append (.append (.append (.fixed rfl) (.natural info.version)) (.fixed rfl)) named

theorem ReductionOp.nulFree_name (op : ReductionOp) : NulFree op.opType.name := by
  unfold opType
  cases op.kind <;> exact .fixed rfl

theorem Op.nulFree_name (op : Op) : NulFree op.opType.name := by
  cases op with
  | parameter desc => exact .fixed rfl
  | constant value => exact .fixed rfl
  | reduction op => exact op.nulFree_name
  | selection op => exact .fixed rfl

-----------------------------------------------------------------------------------------
-- The texts in errors
-----------------------------------------------------------------------------------------

/-- The texts that an error carries hold no NUL character. -/
def TensorError.Clean : TensorError → Prop
  | unsupportedDType reason => NulFree reason
  | other reason => NulFree reason
  | _ => True

theorem TensorError.Clean.nulFree {cause : TensorError} (clean : cause.Clean)
    : NulFree cause.message := by
  cases cause with
  | shapeMismatch expected got =>
      exact .append (.append (.append (.fixed rfl) (nulFree_bracketed expected)) (.fixed rfl))
        (nulFree_bracketed got)
  | dtypeMismatch expected got =>
      exact .append (.append (.append (.fixed rfl) expected.nulFree_name) (.fixed rfl))
        got.nulFree_name
  | invalidAxis axis rank =>
      exact .append (.append (.append (.append (.fixed rfl) (.integer axis.toInt)) (.fixed rfl))
        (.natural rank)) (.fixed rfl)
  | lengthMismatch expected got =>
      exact .append (.append (.append (.fixed rfl) (.natural expected)) (.fixed rfl))
        (.natural got)
  | shapeUnset => exact .fixed rfl
  | unsupportedDType reason => exact .append (.fixed rfl) clean
  | other reason => exact clean

/-- The texts that an error carries hold no NUL character. -/
def GraphError.Clean : GraphError → Prop
  | shapeInference op reason => NulFree op ∧ NulFree reason
  | argumentCount op _ _ => NulFree op
  | unsupportedType op _ => NulFree op
  | duplicateName name => NulFree name
  | parameterMismatch _ expected got => NulFree expected ∧ NulFree got
  | noDefaultValue op => NulFree op
  | tensor cause => cause.Clean
  | other reason => NulFree reason
  | invalidNode _ | invalidOutput _ | missingParameter _ => True

theorem GraphError.Clean.nulFree {cause : GraphError} (clean : cause.Clean)
    : NulFree cause.message := by
  cases cause with
  | shapeInference op reason =>
      exact .append (.append (.append (.fixed rfl) clean.1) (.fixed rfl)) clean.2
  | argumentCount op expected got =>
      exact .append (.append (.append (.append clean (.fixed rfl)) (.natural expected))
        (.fixed rfl)) (.natural got)
  | unsupportedType op dtype => exact .append (.append clean (.fixed rfl)) dtype.nulFree_name
  | invalidNode node =>
      exact .append (.append (.fixed rfl) (NodeId.nulFree_render node)) (.fixed rfl)
  | invalidOutput output =>
      exact .append (.append (.fixed rfl) output.nulFree_render) (.fixed rfl)
  | duplicateName name => exact .append (.append (.fixed rfl) clean) (.fixed rfl)
  | parameterMismatch node expected got =>
      exact .append (.append (.append (.append (.append (.fixed rfl) (NodeId.nulFree_render node))
        (.fixed rfl)) clean.1) (.fixed rfl)) clean.2
  | missingParameter node => exact .append (.fixed rfl) (NodeId.nulFree_render node)
  | noDefaultValue op => exact .append clean (.fixed rfl)
  | tensor cause => exact .append (.fixed rfl) (TensorError.Clean.nulFree clean)
  | other reason => exact clean

-----------------------------------------------------------------------------------------
-- Computations by their errors
-----------------------------------------------------------------------------------------

section ErrorsAre

variable {ε δ α β : Type} {property : ε → Prop}

/-- If a computation fails, its error has a property. -/
def ErrorsAre (property : ε → Prop) (outcome : Except ε α) : Prop :=
  ∀ cause, outcome = .error cause → property cause

theorem ErrorsAre.ok (value : α) : ErrorsAre property (.ok value) :=
  nofun

theorem ErrorsAre.error {cause : ε} (holds : property cause)
    : ErrorsAre property (.error cause : Except ε α) := by
  rintro _ ⟨⟩
  exact holds

/-- A sequence of computations fails as the first does, or as the second after it. -/
theorem ErrorsAre.bind {first : Except ε α} {next : α → Except ε β}
    (now : ErrorsAre property first) (later : ∀ value, ErrorsAre property (next value))
    : ErrorsAre property (first >>= next) := by
  intro cause failed
  rcases bind_eq_error_iff.mp failed with here | ⟨value, -, there⟩
  · exact now cause here
  · exact later value cause there

theorem ErrorsAre.map {computed : Except ε α} (now : ErrorsAre property computed) (f : α → β)
    : ErrorsAre property (computed.map f) := by
  intro cause failed
  cases outcome : computed with
  | ok value => simp [outcome, Except.map] at failed
  | error other =>
      rw [outcome] at failed
      cases failed
      exact now cause outcome

/-- Errors may be read as errors of another type. -/
theorem ErrorsAre.mapError {computed : Except ε α} {f : ε → δ} {read : δ → Prop}
    (now : ErrorsAre property computed) (reads : ∀ cause, property cause → read (f cause))
    : ErrorsAre read (computed.mapError f) := by
  intro cause failed
  cases outcome : computed with
  | ok value => simp [outcome, Except.mapError] at failed
  | error original =>
      rw [outcome] at failed
      cases failed
      exact reads original (now original outcome)

/-- A traversal fails as one of its elements, by list induction. -/
theorem ErrorsAre.mapM {f : α → Except ε β} (each : ∀ x, ErrorsAre property (f x)) (xs : List α)
    : ErrorsAre property (xs.mapM f) := by
  induction xs with
  | nil =>
      rw [List.mapM_nil]
      exact .ok _
  | cons head rest ih =>
      rw [List.mapM_cons]
      exact .bind (each head) fun _ => .bind ih fun _ => .ok _

end ErrorsAre

-----------------------------------------------------------------------------------------
-- Adding to a graph
-----------------------------------------------------------------------------------------

theorem Tensor.ofBytes_clean (dtype : DType) (shape : Shape) (bytes : Bytes)
    : ErrorsAre TensorError.Clean (ofBytes dtype shape bytes) := by
  unfold ofBytes
  split
  · exact .ok _
  · exact .error trivial

theorem Tensor.toInt64s_clean (tensor : Tensor)
    : ErrorsAre TensorError.Clean tensor.toInt64s := by
  unfold toInt64s Buffer.toInt64s
  split
  · exact .ok _
  · exact .ok _
  next dtype _ _ _ _ => exact .error (.append (.fixed rfl) dtype.nulFree_name)

theorem tensorError_clean {α : Type} {computed : Except TensorError α}
    (clean : ErrorsAre TensorError.Clean computed)
    : ErrorsAre GraphError.Clean (computed.mapError .tensor) :=
  clean.mapError fun _ holds => holds

/-- The error of an operation whose inputs do not fit is clean if its reason is. -/
theorem OpType.clean_shapeError {info : OpType} (named : NulFree info.name) {reason : String}
    (clean : NulFree reason)
    : (info.shapeError reason).Clean :=
  ⟨nulFree_render named, clean⟩

theorem OpType.checkInputCount_clean {info : OpType} (named : NulFree info.name)
    (least most got : Nat)
    : ErrorsAre GraphError.Clean (info.checkInputCount least most got) := by
  unfold checkInputCount
  split
  · exact .ok _
  · refine .error (clean_shapeError named (.append (.append (.append (.fixed rfl) ?_)
      (.fixed rfl)) (.natural got)))
    split
    · exact .natural least
    · exact .append (.append (.natural least) (.fixed rfl)) (.natural most)

/-- A failure is a fault, or an error whose texts hold no NUL character. -/
def Failure.Clean : Failure GraphError → Prop
  | .error cause => cause.Clean
  | .fault _ => True

theorem orFailure_clean {α : Type} {computed : Except GraphError α}
    (clean : ErrorsAre GraphError.Clean computed)
    : ErrorsAre Failure.Clean (orFailure computed) :=
  clean.mapError fun _ holds => holds

theorem orFault_clean {α : Type} (computed : Except Fault α)
    : ErrorsAre Failure.Clean (orFault computed) :=
  ErrorsAre.mapError (fun _ _ => trivial : ErrorsAre (fun _ => True) computed) fun _ holds => holds

namespace ReductionOp

theorem shapeError_clean {α : Type} (op : ReductionOp) {reason : String} (clean : NulFree reason)
    : ErrorsAre GraphError.Clean (.error (op.opType.shapeError reason) : Except GraphError α) :=
  .error (OpType.clean_shapeError op.nulFree_name clean)

variable (op : ReductionOp)

theorem checkData_clean (dtype : DType) : ErrorsAre GraphError.Clean (op.checkData dtype) := by
  unfold checkData
  split
  · split
    · exact .ok _
    · exact op.shapeError_clean (.append (.fixed rfl) dtype.nulFree_name)
  · split
    · exact .ok _
    · exact op.shapeError_clean (.append (.fixed rfl) dtype.nulFree_name)

theorem checkAxesInput_clean (axes : TensorDesc)
    : ErrorsAre GraphError.Clean (op.checkAxesInput axes) := by
  unfold checkAxesInput
  split
  · exact op.shapeError_clean (.append (.fixed rfl) axes.dtype.nulFree_name)
  · split
    · exact op.shapeError_clean (.append (.fixed rfl) axes.shape.nulFree_render)
    · exact .ok _

/-- Axes are refused for their range only. -/
theorem normalize_clean (values : List Int64) (rank : Nat)
    : ErrorsAre TensorError.Clean (AxisSet.normalize values rank) := by
  apply ErrorsAre.map
  apply ErrorsAre.mapM
  intro value
  unfold AxisSet.resolve
  dsimp only
  split
  · exact .error trivial
  · exact .ok _

theorem clean_axisError {cause : TensorError} (clean : cause.Clean)
    : (op.axisError cause).Clean := by
  unfold axisError
  split
  next axis rank =>
    exact OpType.clean_shapeError op.nulFree_name
      (.append (.append (.append (.fixed rfl) (.integer axis.toInt)) (.fixed rfl)) (.natural rank))
  · exact clean

theorem resolveAxes_clean (constant : Option Tensor) (rank : Nat)
    : ErrorsAre GraphError.Clean (op.resolveAxes constant rank) := by
  unfold resolveAxes
  split
  · exact op.shapeError_clean (.fixed rfl)
  · split
    next cause failed => exact .error (Tensor.toInt64s_clean _ cause failed)
    · exact (normalize_clean _ rank).mapError fun _ => op.clean_axisError

theorem infer_clean (inputs : List InferenceInput)
    : ErrorsAre GraphError.Clean (op.infer inputs) := by
  unfold infer
  refine .bind (OpType.checkInputCount_clean op.nulFree_name _ _ _) fun _ => ?_
  split
  · refine .bind (op.checkData_clean _) fun _ => ?_
    refine .bind (op.checkAxesInput_clean _) fun _ => ?_
    exact .bind (op.resolveAxes_clean _ _) fun _ => .ok _
  · exact op.shapeError_clean (.fixed rfl)

end ReductionOp

namespace Graph

theorem node_clean (graph : Graph) (id : NodeId)
    : ErrorsAre GraphError.Clean (graph.node id) := by
  unfold node
  split
  · exact .ok _
  · exact .error trivial

theorem outputDesc_clean (graph : Graph) (output : Output)
    : ErrorsAre GraphError.Clean (graph.outputDesc output) := by
  unfold outputDesc
  split
  next cause absent => exact .error (graph.node_clean _ cause absent)
  · split
    · exact .ok _
    · exact .error trivial

theorem add_clean (graph : Graph) {op : Op}
    (infers : ∀ seen, ErrorsAre GraphError.Clean (op.infer seen)) (inputs : List Output)
    : ErrorsAre GraphError.Clean (graph.add op inputs) := by
  refine .bind (.mapM (fun output => (graph.outputDesc_clean output).map _) inputs) fun seen => ?_
  exact .bind (infers seen) fun _ => .ok _

theorem addParameter_clean (graph : Graph) (desc : TensorDesc)
    : ErrorsAre GraphError.Clean (graph.add (.parameter desc) []) := by
  apply add_clean
  intro seen
  exact .bind (OpType.checkInputCount_clean (Op.nulFree_name _) _ _ _) fun _ => .ok _

theorem addConstant_clean (graph : Graph) (value : Tensor)
    : ErrorsAre GraphError.Clean (graph.add (.constant value) []) := by
  apply add_clean
  intro seen
  refine .bind (OpType.checkInputCount_clean (Op.nulFree_name _) _ _ _) fun _ => ?_
  split
  · exact .error (OpType.clean_shapeError (Op.nulFree_name _) (.fixed rfl))
  · exact .ok _

theorem addReduction_clean (graph : Graph) (op : ReductionOp) (inputs : List Output)
    : ErrorsAre GraphError.Clean (graph.add (.reduction op) inputs) := by
  apply add_clean
  intro seen
  exact (op.infer_clean seen).map _

theorem addResult_clean (graph : Graph) (output : Output)
    : ErrorsAre GraphError.Clean (graph.addResult output) :=
  .bind (graph.outputDesc_clean output) fun _ => .ok _

-----------------------------------------------------------------------------------------
-- Executions
-----------------------------------------------------------------------------------------

theorem checkBindings_clean (graph : Graph) (bindings : Bindings)
    : ErrorsAre GraphError.Clean (graph.checkBindings bindings) := by
  induction bindings with
  | nil => exact .ok _
  | cons binding rest ih =>
      refine .bind (graph.node_clean _) fun node => ?_
      split
      · exact .error (.append (.append (.fixed rfl) (NodeId.nulFree_render _)) (.fixed rfl))
      · exact ih

theorem nulFree_describe (tensor : Tensor) : NulFree (describe tensor) := by
  unfold describe
  split
  next desc described => exact desc.nulFree_render
  · exact .append tensor.dtype.nulFree_name (.fixed rfl)

theorem bound_clean (bindings : Bindings) (id : NodeId) (declared : TensorDesc)
    : ErrorsAre GraphError.Clean (bound bindings id declared) := by
  unfold bound
  split
  · exact .error trivial
  · split
    · exact .ok _
    · exact .error ⟨declared.nulFree_render, nulFree_describe _⟩

theorem get_clean (values : Values) (output : Output)
    : ErrorsAre GraphError.Clean (values.get output) := by
  unfold Values.get
  split
  · exact .ok _
  · exact .error trivial

theorem clean_unevaluated (node : Node) (inputs : List Tensor)
    : (unevaluated node inputs).Clean := by
  unfold unevaluated
  split
  · exact OpType.nulFree_render node.op.nulFree_name
  · exact .append (OpType.nulFree_render node.op.nulFree_name) (.fixed rfl)

theorem evaluateNode_clean (interceptors : List Interceptor) (node : Node) (inputs : List Tensor)
    : ErrorsAre Failure.Clean (evaluateNode interceptors node inputs).outcome := by
  have refused : ErrorsAre Failure.Clean
      (.error (.error (unevaluated node inputs)) : Except (Failure GraphError) (List Tensor)) :=
    .error (clean_unevaluated node inputs)
  unfold evaluateNode
  dsimp only
  split
  · exact .error trivial
  · dsimp only
    split
    · exact .ok _
    · exact refused
  · split
    · exact .error trivial
    · dsimp only
      split
      · exact .ok _
      · exact refused

theorem nodeValues_clean (graph : Graph) (interceptors : List Interceptor) (bindings : Bindings)
    (values : Values) (id : NodeId)
    : ErrorsAre Failure.Clean (graph.nodeValues interceptors bindings values id).outcome := by
  unfold nodeValues
  split
  next cause absent => exact .error (graph.node_clean id cause absent)
  · split
    · exact orFailure_clean ((bound_clean _ _ _).map _)
    · split
      next cause unread => exact .error (ErrorsAre.mapM (get_clean values) _ cause unread)
      · exact evaluateNode_clean _ _ _

/-- A walk fails as one of its nodes, by induction on the order. -/
theorem evaluateAll_clean (graph : Graph) (interceptors : List Interceptor) (bindings : Bindings)
    (order : List NodeId) (values : Values)
    : ErrorsAre Failure.Clean (graph.evaluateAll interceptors bindings order values).outcome := by
  induction order generalizing values with
  | nil => exact .ok _
  | cons id rest ih =>
      rw [evaluateAll]
      dsimp only
      split
      next failure failed => exact .error (graph.nodeValues_clean _ _ _ id failure failed)
      next outputs evaluated => exact ih (values.set id outputs)

theorem execute_clean (graph : Graph) (interceptors : List Interceptor) (bindings : Bindings)
    : ErrorsAre Failure.Clean (graph.execute interceptors bindings).outcome := by
  unfold execute
  split
  next cause refused => exact .error (graph.checkBindings_clean bindings cause refused)
  · dsimp only
    split
    next failure failed => exact .error (graph.evaluateAll_clean _ _ _ _ failure failed)
    · exact orFailure_clean (.mapM (get_clean _) _)

-----------------------------------------------------------------------------------------
-- Preparations
-----------------------------------------------------------------------------------------

theorem replaceUses_clean (graph : Graph) (old new : Output)
    : ErrorsAre GraphError.Clean (graph.replaceUses old new) := by
  refine .bind (graph.outputDesc_clean old) fun oldDesc => ?_
  refine .bind (graph.outputDesc_clean new) fun newDesc => ?_
  have first := old.nulFree_render
  have second := new.nulFree_render
  split
  · exact .error (.append (.append (.append (.append (.append (.append (.append (.append
      (.fixed rfl) first) (.fixed rfl)) oldDesc.nulFree_render) (.fixed rfl)) second) (.fixed rfl))
      newDesc.nulFree_render) (.fixed rfl))
  · split
    · exact .error (.append (.append (.append (.append (.append (.fixed rfl) first) (.fixed rfl))
        second) (.fixed rfl)) (NodeId.nulFree_render _))
    · exact .ok _

theorem addDefault_clean (graph : Graph) (id : NodeId)
    : ErrorsAre Failure.Clean (graph.addDefault id) := by
  refine .bind (orFailure_clean (graph.node_clean id)) fun node => ?_
  split
  · exact .error trivial
  · split
    · exact .error trivial
    · exact .error (OpType.nulFree_render node.op.nulFree_name)
    · exact orFailure_clean (graph.addConstant_clean _)

/-- The replacement of outputs fails as one of them, by induction on the values. -/
theorem replaceOutputs_clean (graph : Graph) (id : NodeId) (index : Nat) (values : List Tensor)
    : ErrorsAre GraphError.Clean (graph.replaceOutputs id index values).2 := by
  induction values generalizing graph index with
  | nil => exact .ok _
  | cons value rest ih =>
      rw [replaceOutputs]
      split
      next cause refused => exact .error (graph.addConstant_clean value cause refused)
      next extended replacement added =>
        split
        next cause refused => exact .error (extended.replaceUses_clean _ _ cause refused)
        next relinked count replaced => exact ih relinked (index + 1)

theorem foldedOutputs_clean (graph : Graph) (id : NodeId)
    : ErrorsAre Failure.Clean (graph.foldedOutputs id) := by
  unfold foldedOutputs
  split
  next cause absent => exact .error (graph.node_clean id cause absent)
  · split
    · exact .ok _
    · split
      · exact .ok _
      · split
        · exact .error trivial
        · split <;> exact .ok _

/-- A folding pass fails at one of the nodes, by induction on them. -/
theorem foldNodes_clean (graph : Graph) (count : Nat) (order : List NodeId)
    : ErrorsAre Failure.Clean (graph.foldNodes count order).outcome := by
  induction order generalizing graph count with
  | nil => exact .ok _
  | cons id rest ih =>
      rw [foldNodes]
      split
      next failure failed => exact .error (graph.foldedOutputs_clean id failure failed)
      · exact ih graph count
      next outputs folded =>
        have clean := graph.replaceOutputs_clean id 0 outputs
        split
        next relinked cause replaced =>
          rw [replaced] at clean
          exact .error (clean cause rfl)
        next relinked replaced => exact ih relinked (count + 1)

theorem reducesNothing_clean (graph : Graph) (id : NodeId)
    : ErrorsAre Failure.Clean (graph.reducesNothing id) := by
  refine .bind (orFailure_clean (graph.node_clean id)) fun node => ?_
  split
  · refine .bind (orFailure_clean (graph.outputDesc_clean _)) fun desc => ?_
    split
    · exact .ok _
    · exact ErrorsAre.map (orFault_clean _) _
  · exact .ok _

/-- A pass over empty reductions fails at one of the nodes, by induction on them. -/
theorem eliminateNodes_clean (graph : Graph) (count : Nat) (order : List NodeId)
    : ErrorsAre Failure.Clean (graph.eliminateNodes count order).outcome := by
  induction order generalizing graph count with
  | nil => exact .ok _
  | cons id rest ih =>
      rw [eliminateNodes]
      split
      next failure failed => exact .error (graph.reducesNothing_clean id failure failed)
      · exact ih graph count
      · split
        next failure failed => exact .error (graph.addDefault_clean id failure failed)
        next extended replacement added =>
          split
          next cause refused => exact .error (extended.replaceUses_clean _ _ cause refused)
          next relinked replaced _ => exact ih relinked (count + 1)

theorem prepare_clean (graph : Graph) (config : Config)
    : ErrorsAre Failure.Clean (graph.prepare config).outcome := by
  have first : ErrorsAre Failure.Clean
      (simplifyIf config.eliminateEmpty eliminateEmpty graph).outcome := by
    unfold simplifyIf
    split
    · exact graph.eliminateNodes_clean 0 _
    · exact .ok _
  unfold prepare Simplification.andThen
  split
  next failure failed => exact first
  next count eliminated =>
    apply ErrorsAre.map
    unfold simplifyIf
    split
    · exact foldNodes_clean _ 0 _
    · exact .ok _

end Graph

end TensorGraph
