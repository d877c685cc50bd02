import TensorGraph.Graph.Op
import TensorGraph.Proofs.Traversal

/-! What the inputs and outputs of an operation are like when inference accepts them. -/

namespace TensorGraph

/-- An accepted number of inputs lies between the bounds. -/
theorem OpType.bounds_of_checkInputCount {info : OpType} {least most got : Nat}
    (checked : info.checkInputCount least most got = .ok ())
    : least ≤ got ∧ got ≤ most := by
  unfold OpType.checkInputCount at checked
  split at checked
  next bounds => exact bounds
  · exact absurd checked (by simp)

/-- The number of inputs is accepted exactly if it lies between the bounds. -/
theorem OpType.checkInputCount_eq_ok_iff {info : OpType} {least most got : Nat}
    : info.checkInputCount least most got = .ok () ↔ least ≤ got ∧ got ≤ most := by
  constructor
  · exact OpType.bounds_of_checkInputCount
  · intro bounds
    rw [OpType.checkInputCount, if_pos bounds]

/-- The descriptors of data and axes pass the checks of a reduction. -/
structure ReductionOp.Accepts (op : ReductionOp) (data axes : TensorDesc) : Prop where
  data : op.checkData data.dtype = .ok ()
  axes : op.checkAxesInput axes = .ok ()

/-- A reduction is accepted exactly if it has two inputs whose descriptors pass the checks and the
second is a constant that names axes. These are recorded, and the output is the first input reduced
over them.
-/
theorem ReductionOp.infer_eq_ok_iff {op inferred : ReductionOp} {inputs : List InferenceInput}
    {outputs : List TensorDesc}
    : op.infer inputs = .ok (inferred, outputs)
      ↔ ∃ data axes resolved,
          inputs = [data, axes]
          ∧ op.Accepts data.desc axes.desc
          ∧ op.resolveAxes axes.constant data.desc.shape.rank = .ok resolved
          ∧ inferred = ⟨op.kind, op.keepDims, resolved⟩
          ∧ outputs = [⟨data.desc.dtype, data.desc.shape.reduce resolved op.keepDims⟩] := by
  simp only [ReductionOp.infer, bind_eq_ok_iff]
  constructor
  · rintro ⟨⟨⟩, counted, accepted⟩
    have count := OpType.bounds_of_checkInputCount counted
    match inputs, count, accepted with
    | [data, axes], _, accepted =>
        simp only [bind_eq_ok_iff, Except.ok.injEq, Prod.mk.injEq] at accepted
        obtain ⟨⟨⟩, dataFits, ⟨⟩, axesFit, resolved, named, rfl, rfl⟩ := accepted
        exact ⟨data, axes, resolved, rfl, ⟨dataFits, axesFit⟩, named, rfl, rfl⟩
    | [], count, _ => exact absurd count.1 (by simp)
    | [_], count, _ => exact absurd count.1 (by simp)
    | _ :: _ :: _ :: _, count, _ => exact absurd count.2 (by simp)
  · rintro ⟨data, axes, resolved, rfl, fits, named, rfl, rfl⟩
    refine ⟨(), OpType.checkInputCount_eq_ok_iff.mpr (by simp), ?_⟩
    simp only [bind_eq_ok_iff, Except.ok.injEq, Prod.mk.injEq]
    exact ⟨(), fits.data, (), fits.axes, resolved, named, rfl, rfl⟩

/-- The first two inputs of a selection are accepted exactly if they describe the same batches and
boxes.
-/
theorem SelectionOp.extents_eq_ok_iff {boxes scores : Shape} {batches labels count : Nat}
    : SelectionOp.extents boxes scores = .ok (batches, labels, count)
      ↔ boxes.dims = [batches, count, 4] ∧ scores.dims = [batches, labels, count] := by
  constructor
  · intro described
    unfold SelectionOp.extents at described
    split at described
    next b n boxesDims =>
      split at described
      next sb c sn scoresDims =>
        split at described
        next same =>
          obtain ⟨rfl, rfl⟩ := same
          simp only [Except.ok.injEq, Prod.mk.injEq] at described
          obtain ⟨rfl, rfl, rfl⟩ := described
          exact ⟨boxesDims, scoresDims⟩
        · exact absurd described (by simp)
      · exact absurd described (by simp)
    · exact absurd described (by simp)
  · rintro ⟨boxesDims, scoresDims⟩
    simp [SelectionOp.extents, boxesDims, scoresDims]

/-- One element, of a type that `allowed` admits. -/
structure TensorDesc.IsScalar (desc : TensorDesc) (allowed : DType → Bool) : Prop where
  rank : desc.shape.rank ≤ 1
  single : desc.shape.count = 1
  type : allowed desc.dtype

/-- An optional input is accepted exactly if it is absent or a scalar. -/
theorem SelectionOp.checkScalar_eq_ok_iff {input : Option InferenceInput} {name : String}
    {allowed : DType → Bool}
    : SelectionOp.checkScalar input name allowed = .ok ()
      ↔ ∀ seen, input = some seen → seen.desc.IsScalar allowed := by
  cases input with
  | none => simp [SelectionOp.checkScalar]
  | some seen =>
      obtain ⟨desc, constant⟩ := seen
      simp only [SelectionOp.checkScalar, Option.some.injEq, forall_eq']
      constructor
      · intro checked
        split at checked
        · cases checked
        next scalar =>
          rw [not_or, Nat.not_lt, not_not] at scalar
          split at checked
          next admitted => exact ⟨scalar.1, scalar.2, admitted⟩
          · cases checked
      · intro scalar
        have flat : ¬ (1 < desc.shape.rank ∨ desc.shape.count ≠ 1) := by
          rw [not_or, Nat.not_lt, not_not]
          exact ⟨scalar.rank, scalar.single⟩
        rw [if_neg flat, if_pos scalar.type]

/-- The descriptors of boxes, scores and further scalars pass the checks of a selection, with the
given numbers of batches, classes and boxes. The first scalar is an integer limit.
-/
structure SelectionOp.Accepts (op : SelectionOp) (boxes scores : TensorDesc)
    (scalars : List TensorDesc) (batches labels count : Nat)
    : Prop where
  outputType : op.outputType = .i32 ∨ op.outputType = .i64
  boxesType : boxes.dtype.isReal
  scoresType : scores.dtype.isReal
  boxesDims : boxes.shape.dims = [batches, count, 4]
  scoresDims : scores.shape.dims = [batches, labels, count]
  few : scalars.length ≤ 4
  limit : ∀ desc, scalars[0]? = some desc → desc.IsScalar DType.isIntegral
  reals : ∀ (index : Nat) desc, scalars[index + 1]? = some desc → desc.IsScalar DType.isReal

/-- Every scalar that is accepted has one element. -/
theorem SelectionOp.Accepts.single {op : SelectionOp} {boxes scores : TensorDesc}
    {scalars : List TensorDesc} {batches labels count : Nat}
    (accepts : op.Accepts boxes scores scalars batches labels count) {index : Nat}
    {desc : TensorDesc} (present : scalars[index]? = some desc)
    : desc.shape.count = 1 := by
  cases index with
  | zero => exact (accepts.limit desc present).single
  | succ index => exact (accepts.reals index desc present).single

/-- The outputs of a selection of at most so many rows. -/
def SelectionOp.bounds (op : SelectionOp) (rows : Nat) : List TensorDesc :=
  [⟨op.outputType, ⟨[rows, 3]⟩⟩, ⟨.f32, ⟨[rows, 3]⟩⟩, ⟨op.outputType, ⟨[1]⟩⟩]

@[simp]
theorem SelectionOp.length_bounds (op : SelectionOp) (rows : Nat)
    : (op.bounds rows).length = 3 :=
  rfl

/-- The four optional inputs are accepted exactly if each that is present is a scalar. -/
theorem SelectionOp.scalars_iff {rest : List InferenceInput} (few : rest.length ≤ 4)
    : ((∀ seen, rest[0]? = some seen → seen.desc.IsScalar DType.isIntegral)
        ∧ (∀ seen, rest[1]? = some seen → seen.desc.IsScalar DType.isReal)
        ∧ (∀ seen, rest[2]? = some seen → seen.desc.IsScalar DType.isReal)
        ∧ ∀ seen, rest[3]? = some seen → seen.desc.IsScalar DType.isReal)
      ↔ (∀ desc,
            (rest.map InferenceInput.desc)[0]? = some desc → desc.IsScalar DType.isIntegral)
        ∧ ∀ (index : Nat) desc,
            (rest.map InferenceInput.desc)[index + 1]? = some desc
            → desc.IsScalar DType.isReal := by
  simp only [List.getElem?_map, Option.map_eq_some_iff, forall_exists_index, and_imp,
    forall_apply_eq_imp_iff₂]
  refine and_congr_right fun _ => ⟨?_, fun reals => ⟨reals 0, reals 1, reals 2⟩⟩
  rintro ⟨first, second, third⟩ index seen present
  have inside := (List.getElem?_eq_some_iff.mp present).1
  obtain rfl | rfl | rfl : index = 0 ∨ index = 1 ∨ index = 2 := by omega
  · exact first seen present
  · exact second seen present
  · exact third seen present

/-- Inference allows no class more selections than there are boxes. -/
theorem SelectionOp.perClass_le {seen : Option InferenceInput} {count most : Nat}
    (allowed : perClass seen count = .ok most)
    : most ≤ count := by
  unfold perClass at allowed
  split at allowed
  · cases allowed
    exact Nat.zero_le count
  · cases allowed
    exact Nat.le_refl count
  · split at allowed
    · cases allowed
    · cases allowed
      exact Nat.min_le_right _ _

/-- A selection is accepted exactly if its inputs are boxes, scores and up to four scalars that pass
the checks, and a constant limit can be read. Its outputs have a row for as many selections as each
class of each batch can have.
-/
theorem SelectionOp.infer_eq_ok_iff {op : SelectionOp} {inputs : List InferenceInput}
    {outputs : List TensorDesc}
    : op.infer inputs = .ok outputs
      ↔ ∃ boxes scores rest batches labels count most,
          inputs = boxes :: scores :: rest
          ∧ op.Accepts boxes.desc scores.desc (rest.map InferenceInput.desc) batches labels count
          ∧ SelectionOp.perClass rest.head? count = .ok most
          ∧ outputs = op.bounds (word (batches * labels * most)) := by
  simp only [SelectionOp.infer, bind_eq_ok_iff]
  constructor
  · rintro ⟨⟨⟩, counted, accepted⟩
    split at accepted
    · exact absurd accepted (by simp)
    next integral =>
      split at accepted
      next boxes scores rest =>
        split at accepted
        · exact absurd accepted (by simp)
        next real =>
          simp only [bind_eq_ok_iff, Except.ok.injEq, List.getElem?_cons_succ] at accepted
          obtain ⟨⟨batches, labels, count⟩, described, ⟨⟩, limit, ⟨⟩, overlap, ⟨⟩, score, ⟨⟩,
            sigma, most, limited, rfl⟩ := accepted
          obtain ⟨boxesDims, scoresDims⟩ := extents_eq_ok_iff.mp described
          have few : rest.length ≤ 4 := by
            have most := (OpType.bounds_of_checkInputCount counted).2
            simp only [List.length_cons] at most
            omega
          obtain ⟨limit, reals⟩ := (scalars_iff few).mp
            ⟨checkScalar_eq_ok_iff.mp limit, checkScalar_eq_ok_iff.mp overlap,
              checkScalar_eq_ok_iff.mp score, checkScalar_eq_ok_iff.mp sigma⟩
          rw [not_and_or, not_not, not_not] at integral
          simp only [Bool.or_eq_true, Bool.not_eq_true', not_or, Bool.not_eq_false] at real
          refine ⟨boxes, scores, rest, batches, labels, count, most, rfl, ?_, ?_, rfl⟩
          · exact {
              outputType := integral
              boxesType := real.1
              scoresType := real.2
              boxesDims := boxesDims
              scoresDims := scoresDims
              few := by rwa [List.length_map]
              limit := limit
              reals := reals
            }
          · rw [List.head?_eq_getElem?]
            exact limited
      · exact absurd accepted (by simp)
  · rintro ⟨boxes, scores, rest, batches, labels, count, most, rfl, fits, limited, rfl⟩
    have few : rest.length ≤ 4 := by simpa using fits.few
    obtain ⟨limit, overlap, score, sigma⟩ := (scalars_iff few).mpr ⟨fits.limit, fits.reals⟩
    have counted
        : 2 ≤ (boxes :: scores :: rest).length ∧ (boxes :: scores :: rest).length ≤ 6 := by
      simp only [List.length_cons]
      omega
    refine ⟨(), OpType.checkInputCount_eq_ok_iff.mpr counted, ?_⟩
    have integral : ¬ (op.outputType ≠ .i32 ∧ op.outputType ≠ .i64) := by
      rw [not_and_or, not_not, not_not]
      exact fits.outputType
    rw [if_neg integral]
    simp only [fits.boxesType, fits.scoresType, Bool.not_true, Bool.or_false,
      Bool.false_eq_true, if_false, bind_eq_ok_iff, List.getElem?_cons_succ]
    refine ⟨(batches, labels, count),
      extents_eq_ok_iff.mpr ⟨fits.boxesDims, fits.scoresDims⟩,
      (), checkScalar_eq_ok_iff.mpr limit, (), checkScalar_eq_ok_iff.mpr overlap,
      (), checkScalar_eq_ok_iff.mpr score, (), checkScalar_eq_ok_iff.mpr sigma, most, ?_, rfl⟩
    rw [← List.head?_eq_getElem?]
    exact limited

theorem Op.parameterDesc?_eq_some_iff {op : Op} {desc : TensorDesc}
    : op.parameterDesc? = some desc ↔ op = .parameter desc := by
  cases op <;> simp [parameterDesc?]

theorem Op.constantValue?_eq_some_iff {op : Op} {value : Tensor}
    : op.constantValue? = some value ↔ op = .constant value := by
  cases op <;> simp [constantValue?]

/-- An accepted parameter has no inputs and one output of its own descriptor. -/
theorem Op.infer_parameter_eq_ok {desc : TensorDesc} {inferred : Op}
    {inputs : List InferenceInput} {outputs : List TensorDesc}
    (accepted : (Op.parameter desc).infer inputs = .ok (inferred, outputs))
    : inputs = [] ∧ inferred = .parameter desc ∧ outputs = [desc] := by
  simp only [infer, bind_eq_ok_iff, Except.ok.injEq, Prod.mk.injEq] at accepted
  obtain ⟨⟨⟩, counted, rfl, rfl⟩ := accepted
  have none := Nat.le_zero.mp (OpType.bounds_of_checkInputCount counted).2
  exact ⟨List.eq_nil_of_length_eq_zero none, rfl, rfl⟩

/-- An accepted constant has no inputs and one output of the descriptor of its value. -/
theorem Op.infer_constant_eq_ok {value : Tensor} {inferred : Op} {inputs : List InferenceInput}
    {outputs : List TensorDesc}
    (accepted : (Op.constant value).infer inputs = .ok (inferred, outputs))
    : inputs = []
      ∧ inferred = .constant value
      ∧ ∃ desc, value.desc? = some desc ∧ outputs = [desc] := by
  simp only [infer, bind_eq_ok_iff] at accepted
  obtain ⟨⟨⟩, counted, accepted⟩ := accepted
  have none := Nat.le_zero.mp (OpType.bounds_of_checkInputCount counted).2
  cases described : value.desc? with
  | none => simp [described] at accepted
  | some desc =>
      simp only [described, Except.ok.injEq, Prod.mk.injEq] at accepted
      obtain ⟨rfl, rfl⟩ := accepted
      exact ⟨List.eq_nil_of_length_eq_zero none, rfl, desc, rfl, rfl⟩

/-- A constant with a shape is accepted without inputs. -/
theorem Op.infer_constant {value : Tensor} {desc : TensorDesc} (described : value.desc? = some desc)
    : (Op.constant value).infer [] = .ok (.constant value, [desc]) := by
  simp [infer, OpType.checkInputCount, described, bind, Except.bind]

/-- Only a reduction is inferred to be a reduction. -/
theorem Op.infer_eq_reduction {op : Op} {inferred : ReductionOp} {inputs : List InferenceInput}
    {outputs : List TensorDesc} (accepted : op.infer inputs = .ok (.reduction inferred, outputs))
    : ∃ before, op = .reduction before ∧ before.infer inputs = .ok (inferred, outputs) := by
  cases op with
  | parameter desc =>
      obtain ⟨-, impossible, -⟩ := infer_parameter_eq_ok accepted
      cases impossible
  | constant value =>
      obtain ⟨-, impossible, -⟩ := infer_constant_eq_ok accepted
      cases impossible
  | reduction before =>
      obtain ⟨⟨reduction, descs⟩, accepted, same⟩ := map_eq_ok_iff.mp accepted
      cases same
      exact ⟨before, rfl, accepted⟩
  | selection before =>
      obtain ⟨descs, -, same⟩ := map_eq_ok_iff.mp accepted
      cases same

/-- Only a selection is inferred to be a selection, and it stays as it is. -/
theorem Op.infer_eq_selection {op : Op} {inferred : SelectionOp} {inputs : List InferenceInput}
    {outputs : List TensorDesc} (accepted : op.infer inputs = .ok (.selection inferred, outputs))
    : inferred.infer inputs = .ok outputs := by
  cases op with
  | parameter desc =>
      obtain ⟨-, impossible, -⟩ := infer_parameter_eq_ok accepted
      cases impossible
  | constant value =>
      obtain ⟨-, impossible, -⟩ := infer_constant_eq_ok accepted
      cases impossible
  | reduction before =>
      obtain ⟨⟨reduction, descs⟩, -, same⟩ := map_eq_ok_iff.mp accepted
      cases same
  | selection before =>
      obtain ⟨descs, accepted, same⟩ := map_eq_ok_iff.mp accepted
      cases same
      exact accepted

end TensorGraph
