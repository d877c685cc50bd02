import TensorGraph.Proofs.Graph.Declining
import TensorGraph.Proofs.Graph.InPlace
import TensorGraph.Proofs.Integers

/-! The axes that inference records.

A reduction is inferred in place: the checks leave it as it is, and the axes are recorded last. So a
refused reduction keeps the axes of an earlier inference, and an accepted one forgets them. What is
recorded depends on the axes that the constant names, not on how it names them.
-/

namespace TensorGraph

-----------------------------------------------------------------------------------------
-- The numbers of a constant
-----------------------------------------------------------------------------------------

/-- The elements of a tensor of integers as numbers. -/
def Tensor.numbers (tensor : Tensor) : List Int :=
  tensor.buffer.elements.map tensor.buffer.dtype.toInt

theorem Tensor.toInt64s_numbers {tensor : Tensor} (integral : tensor.dtype.isIntegral)
    : ∃ values, tensor.toInt64s = .ok values ∧ values.map Int64.toInt = tensor.numbers := by
  obtain ⟨⟨dtype, elements⟩, shape, sized⟩ := tensor
  change dtype.isIntegral = true at integral
  cases dtype with
  | i32 =>
      refine ⟨_, rfl, ?_⟩
      rw [List.map_map]
      refine List.map_congr_left fun element _ => ?_
      exact (Int32.toInt_toInt64 element).trans (DType.toInt_i32 element).symm
  | i64 =>
      refine ⟨_, rfl, ?_⟩
      exact List.map_congr_left fun element _ => (DType.toInt_i64 element).symm
  | boolean | bf16 | f16 | f32 => cases integral

namespace ReductionOp

variable {op : ReductionOp}

-----------------------------------------------------------------------------------------
-- What is accepted
-----------------------------------------------------------------------------------------

/-- Arithmetic reductions take numbers and logical ones take truth values. -/
def TakesType (op : ReductionOp) (dtype : DType) : Prop :=
  if op.kind.isLogical then dtype = .boolean else dtype.isNumeric

theorem checkData_eq_ok_iff {dtype : DType} : op.checkData dtype = .ok () ↔ op.TakesType dtype := by
  unfold checkData TakesType
  by_cases logical : op.kind.isLogical = true
  · by_cases truth : dtype = .boolean <;> simp [logical, truth]
  · by_cases numbers : dtype.isNumeric = true <;> simp [logical, numbers]

/-- The second input of a reduction is a constant integer or a constant list of integers. -/
structure ListsAxes (axes : InferenceInput) (constant : Tensor) : Prop where
  integral : axes.desc.dtype.isIntegral
  flat : axes.desc.shape.rank ≤ 1
  known : axes.constant = some constant
  agrees : constant.desc? = some axes.desc

theorem checkAxesInput_eq_ok_iff {axes : TensorDesc}
    : op.checkAxesInput axes = .ok () ↔ axes.dtype.isIntegral ∧ axes.shape.rank ≤ 1 := by
  unfold checkAxesInput
  by_cases integral : axes.dtype.isIntegral = true
  · by_cases deep : 1 < axes.shape.rank
    · simp [integral, deep, Nat.not_le.mpr deep]
    · simp [integral, deep, Nat.not_lt.mp deep]
  · simp [integral]

/-- Every number of the list names an axis of the data. -/
def AllInRange (data : TensorDesc) (constant : Tensor) : Prop :=
  ∀ number ∈ constant.numbers, AxisSet.InRange data.shape.rank number

/-- The axes that a list of numbers names. -/
def namedAxes (data : TensorDesc) (constant : Tensor) : AxisSet :=
  .ofList (constant.numbers.map (AxisSet.named data.shape.rank))

theorem mem_namedAxes {data : TensorDesc} {constant : Tensor} (inRange : AllInRange data constant)
    {axis : Nat}
    : axis ∈ namedAxes data constant
      ↔ ∃ number ∈ constant.numbers,
          (axis : Int) = if number < 0 then number + data.shape.rank else number := by
  rw [namedAxes, AxisSet.mem_ofList, List.mem_map]
  refine exists_congr fun number => and_congr_right fun member => ?_
  rw [← AxisSet.cast_named (inRange number member), Int.natCast_inj, eq_comm]

section Two

variable {data axes : InferenceInput} {constant : Tensor}

/-- The numbers of a list of axes are the values that it is read as. -/
theorem ListsAxes.read (lists : ListsAxes axes constant)
    : ∃ values, constant.toInt64s = .ok values ∧ values.map Int64.toInt = constant.numbers := by
  refine Tensor.toInt64s_numbers ?_
  rw [(Tensor.desc?_eq_some_iff.mp lists.agrees).1]
  exact lists.integral

theorem resolveAxes_eq_ok_iff (lists : ListsAxes axes constant)
    (small : data.desc.shape.rank < twoPow 63) {resolved : AxisSet}
    : op.resolveAxes axes.constant data.desc.shape.rank = .ok resolved
      ↔ AllInRange data.desc constant ∧ resolved = namedAxes data.desc constant := by
  obtain ⟨values, read, numbers⟩ := lists.read
  unfold resolveAxes
  rw [lists.known]
  simp only [read]
  rw [mapError_eq_ok_iff, AxisSet.normalize_eq_ok_iff small, AllInRange, namedAxes, ← numbers,
    List.forall_mem_map, List.map_map]
  rfl

/-- A reduction with a list of axes is accepted exactly if it takes the type of its data and all
numbers are in range, and then it records the axes that they name.
-/
theorem infer_two_eq_ok_iff (lists : ListsAxes axes constant)
    (small : data.desc.shape.rank < twoPow 63) {inferred : ReductionOp}
    {outputs : List TensorDesc}
    : op.infer [data, axes] = .ok (inferred, outputs)
      ↔ op.TakesType data.desc.dtype
        ∧ AllInRange data.desc constant
        ∧ inferred = { op with axes := namedAxes data.desc constant }
        ∧ outputs
          = [⟨data.desc.dtype,
              data.desc.shape.reduce (namedAxes data.desc constant) op.keepDims⟩] := by
  rw [infer_eq_ok_iff]
  constructor
  · rintro ⟨_, _, resolved, same, accepts, named, rfl, rfl⟩
    cases same
    obtain ⟨inRange, rfl⟩ := (resolveAxes_eq_ok_iff lists small).mp named
    exact ⟨checkData_eq_ok_iff.mp accepts.data, inRange, rfl, rfl⟩
  · rintro ⟨takes, inRange, rfl, rfl⟩
    exact ⟨data, axes, _, rfl,
      ⟨checkData_eq_ok_iff.mpr takes, checkAxesInput_eq_ok_iff.mpr ⟨lists.integral, lists.flat⟩⟩,
      (resolveAxes_eq_ok_iff lists small).mpr ⟨inRange, rfl⟩, rfl, rfl⟩

/-- Data of another type are refused before the axes are looked at. -/
theorem infer_of_untaken (untaken : ¬ op.TakesType data.desc.dtype)
    : ∃ cause, ∀ axes, op.infer [data, axes] = .error cause := by
  cases checked : op.checkData data.desc.dtype with
  | ok _ => exact absurd (checkData_eq_ok_iff.mp checked) untaken
  | error cause =>
      refine ⟨cause, fun axes => ?_⟩
      unfold infer
      simp only [checked]
      rfl

/-- If a number is out of range, the first one is reported. -/
theorem infer_of_out (takes : op.TakesType data.desc.dtype) (lists : ListsAxes axes constant)
    (small : data.desc.shape.rank < twoPow 63) {number : Int}
    (first
      : constant.numbers.find? (fun number => ¬ AxisSet.InRange data.desc.shape.rank number)
        = some number)
    : op.infer [data, axes]
      = .error (op.opType.shapeError
          s!"reduction axis {number} is out of range for rank {data.desc.shape.rank}") := by
  obtain ⟨values, read, numbers⟩ := lists.read
  rw [← numbers, List.find?_map, Option.map_eq_some_iff] at first
  obtain ⟨value, first, rfl⟩ := first
  have refused
      : op.resolveAxes axes.constant data.desc.shape.rank
        = .error (op.axisError (.invalidAxis value data.desc.shape.rank)) := by
    unfold resolveAxes
    rw [lists.known]
    simp only [read]
    rw [AxisSet.normalize_eq_error small first]
    rfl
  unfold infer
  simp only [checkData_eq_ok_iff.mpr takes, refused,
    checkAxesInput_eq_ok_iff.mpr ⟨lists.integral, lists.flat⟩]
  rfl

end Two

-----------------------------------------------------------------------------------------
-- Numbers that name the same axes
-----------------------------------------------------------------------------------------

/-- Two lists of numbers have the same members modulo the rank. -/
def Congruent (rank : Nat) (numbers others : List Int) : Prop :=
  ∀ residue,
    (∃ number ∈ numbers, number % rank = residue) ↔ ∃ other ∈ others, other % rank = residue

theorem namedAxes_subset {data : TensorDesc} {constant other : Tensor}
    (inRange : AllInRange data constant) (otherInRange : AllInRange data other)
    (congruent : Congruent data.shape.rank constant.numbers other.numbers) {axis : Nat}
    (member : axis ∈ namedAxes data constant)
    : axis ∈ namedAxes data other := by
  rw [namedAxes, AxisSet.mem_ofList, List.mem_map] at member ⊢
  obtain ⟨number, listed, rfl⟩ := member
  obtain ⟨partner, otherListed, same⟩ := (congruent _).mp ⟨number, listed, rfl⟩
  exact ⟨partner, otherListed, (AxisSet.named_eq_iff (otherInRange partner otherListed)
    (inRange number listed)).mpr same⟩

theorem namedAxes_eq {data : TensorDesc} {constant other : Tensor}
    (inRange : AllInRange data constant) (otherInRange : AllInRange data other)
    (congruent : Congruent data.shape.rank constant.numbers other.numbers)
    : namedAxes data constant = namedAxes data other := by
  refine AxisSet.ext fun axis => ⟨namedAxes_subset inRange otherInRange congruent, ?_⟩
  exact namedAxes_subset otherInRange inRange fun residue => (congruent residue).symm

/-- Lists in range with the same members modulo the rank have the same inference. -/
theorem inferInPlace_congr {data axes others : InferenceInput} {constant other : Tensor}
    (lists : ListsAxes axes constant) (othersList : ListsAxes others other)
    (small : data.desc.shape.rank < twoPow 63) (inRange : AllInRange data.desc constant)
    (otherInRange : AllInRange data.desc other)
    (congruent : Congruent data.desc.shape.rank constant.numbers other.numbers)
    : op.inferInPlace [data, axes] = op.inferInPlace [data, others] := by
  rw [inferInPlace_eq, inferInPlace_eq]
  by_cases takes : op.TakesType data.desc.dtype
  · rw [(infer_two_eq_ok_iff lists small).mpr ⟨takes, inRange, rfl, rfl⟩,
      (infer_two_eq_ok_iff othersList small).mpr ⟨takes, otherInRange, rfl, rfl⟩,
      namedAxes_eq inRange otherInRange congruent]
  · obtain ⟨cause, refused⟩ := infer_of_untaken takes
    rw [refused, refused]

-----------------------------------------------------------------------------------------
-- Inference by the axes
-----------------------------------------------------------------------------------------

/-- A shape is reduced over axes: they are kept with extent 1, or they are dropped and the extents
of the others are left in their order.
-/
def Reduced (shape : Shape) (axes : AxisSet) (keepDims : Bool) (reduced : Shape) : Prop :=
  if keepDims then
    reduced.rank = shape.rank
    ∧ ∀ axis,
        reduced.dim? axis = (shape.dim? axis).map fun extent => if axis ∈ axes then 1 else extent
  else
    reduced.rank = shape.rank - axes.size
    ∧ reduced.dims = (shape.dims.zipIdx.filter fun (_, axis) => axis ∉ axes).map Prod.fst

theorem reduced_reduce {shape : Shape} {axes : AxisSet}
    (below : ∀ axis ∈ axes, axis < shape.rank) (keepDims : Bool)
    : Reduced shape axes keepDims (shape.reduce axes keepDims) := by
  cases keepDims with
  | true => exact ⟨shape.rank_reduce axes, shape.dim?_reduce_true axes⟩
  | false => exact ⟨Shape.rank_reduce_false below, shape.dims_reduce_false axes⟩

theorem namedAxes_lt {data : TensorDesc} {constant : Tensor} (inRange : AllInRange data constant)
    : ∀ axis ∈ namedAxes data constant, axis < data.shape.rank := by
  intro axis member
  rw [namedAxes, AxisSet.mem_ofList, List.mem_map] at member
  obtain ⟨number, listed, rfl⟩ := member
  exact AxisSet.named_lt (inRange number listed)

theorem inferInPlace_eq_ok_iff {inputs : List InferenceInput} {outputs : List TensorDesc}
    : (op.inferInPlace inputs).1 = .ok outputs
      ↔ ∃ inferred, op.infer inputs = .ok (inferred, outputs) := by
  rw [inferInPlace_eq]
  cases op.infer inputs with
  | error cause => simp
  | ok inferred => simp [Prod.ext_iff]

/-- The inputs of an accepted reduction are data of a type that it takes and a constant list of
numbers in range.
-/
structure Valid (op : ReductionOp) (data axes : InferenceInput) (constant : Tensor) : Prop where
  takes : op.TakesType data.desc.dtype
  lists : ListsAxes axes constant
  inRange : AllInRange data.desc constant

theorem accepted_two_iff {data axes : InferenceInput} {constant : Tensor}
    (lists : ListsAxes axes constant) (small : data.desc.shape.rank < twoPow 63)
    : (∃ outputs, (op.inferInPlace [data, axes]).1 = .ok outputs)
      ↔ op.TakesType data.desc.dtype ∧ AllInRange data.desc constant := by
  simp only [inferInPlace_eq_ok_iff, infer_two_eq_ok_iff lists small]
  constructor
  · rintro ⟨_, _, takes, inRange, -⟩
    exact ⟨takes, inRange⟩
  · rintro ⟨takes, inRange⟩
    exact ⟨_, _, takes, inRange, rfl, rfl⟩

section Inputs

variable {inputs : List InferenceInput}

theorem inferInPlace_of_valid {data axes : InferenceInput} {constant : Tensor}
    (valid : op.Valid data axes constant) (small : data.desc.shape.rank < twoPow 63)
    : op.inferInPlace [data, axes]
      = (.ok
            [⟨data.desc.dtype,
              data.desc.shape.reduce (namedAxes data.desc constant) op.keepDims⟩],
          { op with axes := namedAxes data.desc constant }) := by
  rw [inferInPlace_eq,
    (infer_two_eq_ok_iff valid.lists small).mpr ⟨valid.takes, valid.inRange, rfl, rfl⟩]

/-- Constants that agree with their descriptors are accepted exactly if they are valid. -/
theorem accepted_iff_valid
    (agrees
      : ∀ axes constant,
          inputs[1]? = some axes
          → axes.constant = some constant
          → constant.desc? = some axes.desc)
    (small : ∀ data, inputs[0]? = some data → data.desc.shape.rank < twoPow 63)
    : (∃ outputs, (op.inferInPlace inputs).1 = .ok outputs)
      ↔ ∃ data axes constant, inputs = [data, axes] ∧ op.Valid data axes constant := by
  constructor
  · rintro ⟨outputs, accepted⟩
    obtain ⟨inferred, accepted⟩ := inferInPlace_eq_ok_iff.mp accepted
    obtain ⟨data, axes, resolved, rfl, accepts, named, -⟩ := infer_eq_ok_iff.mp accepted
    obtain ⟨integral, flat⟩ := checkAxesInput_eq_ok_iff.mp accepts.axes
    cases known : axes.constant with
    | none =>
        rw [known] at named
        cases named
    | some constant =>
        have agree := agrees axes constant rfl known
        have lists : ListsAxes axes constant := ⟨integral, flat, known, agree⟩
        have inRange := ((resolveAxes_eq_ok_iff lists (small data rfl)).mp named).1
        exact ⟨data, axes, constant, rfl, checkData_eq_ok_iff.mp accepts.data, lists, inRange⟩
  · rintro ⟨data, axes, constant, rfl, valid⟩
    exact ⟨_, congrArg Prod.fst (inferInPlace_of_valid valid (small data rfl))⟩

theorem inferInPlace_of_refused {cause : GraphError}
    (refused : (op.inferInPlace inputs).1 = .error cause)
    : (op.inferInPlace inputs).2 = op := by
  rw [inferInPlace_eq] at refused ⊢
  cases inferred : op.infer inputs with
  | ok _ =>
      rw [inferred] at refused
      cases refused
  | error _ => rfl

/-- The axes of an earlier inference are not looked at, and they are left only by a refusal. -/
theorem inferInPlace_of_earlier (earlier : AxisSet)
    : inferInPlace { op with axes := earlier } inputs
      = match op.inferInPlace inputs with
        | (.ok outputs, inferred) => (.ok outputs, inferred)
        | (.error cause, _) => (.error cause, { op with axes := earlier }) := by
  have same : infer { op with axes := earlier } inputs = op.infer inputs := rfl
  rw [inferInPlace_eq, inferInPlace_eq, same]
  cases op.infer inputs <;> rfl

end Inputs

/-- The outcome of an inference in place depends on the axes that its inputs name. -/
structure DependsOnAxes (op : ReductionOp) (inputs : List InferenceInput) : Prop where
  /-- Exactly the valid inputs are accepted. -/
  accepts
    : (∃ outputs, (op.inferInPlace inputs).1 = .ok outputs)
      ↔ ∃ data axes constant, inputs = [data, axes] ∧ op.Valid data axes constant
  /-- The axes that the numbers name are recorded, and the data are reduced over them. -/
  records
    : ∀ data axes constant,
        inputs = [data, axes]
        → op.Valid data axes constant
        → ∃ recorded reduced,
            op.inferInPlace inputs
              = (.ok [⟨data.desc.dtype, reduced⟩], { op with axes := recorded })
            ∧ (∀ axis,
                axis ∈ recorded
                ↔ ∃ number ∈ constant.numbers,
                    (axis : Int) = if number < 0 then number + data.desc.shape.rank else number)
            ∧ Reduced data.desc.shape recorded op.keepDims reduced
  /-- A refused reduction stays as it was. -/
  keeps : ∀ cause, (op.inferInPlace inputs).1 = .error cause → (op.inferInPlace inputs).2 = op
  /-- The axes of an earlier inference do not matter. -/
  forgets
    : ∀ earlier,
        inferInPlace { op with axes := earlier } inputs
        = match op.inferInPlace inputs with
          | (.ok outputs, inferred) => (.ok outputs, inferred)
          | (.error cause, _) => (.error cause, { op with axes := earlier })
  /-- Neither order nor repetition of the numbers decides whether they are accepted. -/
  unordered
    : ∀ data axes constant others other,
        inputs = [data, axes]
        → ListsAxes axes constant
        → ListsAxes others other
        → (∀ number, number ∈ constant.numbers ↔ number ∈ other.numbers)
        → ((∃ outputs, (op.inferInPlace inputs).1 = .ok outputs)
          ↔ ∃ outputs, (op.inferInPlace [data, others]).1 = .ok outputs)
  /-- Numbers in range that are the same modulo the rank have the same outcome. -/
  modular
    : ∀ data axes constant others other,
        inputs = [data, axes]
        → ListsAxes axes constant
        → ListsAxes others other
        → AllInRange data.desc constant
        → AllInRange data.desc other
        → Congruent data.desc.shape.rank constant.numbers other.numbers
        → op.inferInPlace inputs = op.inferInPlace [data, others]
  /-- The first number that names no axis is reported. -/
  reports
    : ∀ data axes constant number,
        inputs = [data, axes]
        → op.TakesType data.desc.dtype
        → ListsAxes axes constant
        → constant.numbers.find? (fun number => ¬ AxisSet.InRange data.desc.shape.rank number)
          = some number
        → (op.inferInPlace inputs).1
          = .error (op.opType.shapeError
              s!"reduction axis {number} is out of range for rank {data.desc.shape.rank}")

/-- Inference in place depends on the axes that its inputs name: a reduction of any earlier state
with any inputs is accepted exactly if they are valid, and then records the axes.
-/
theorem inferInPlace_by_axes (op : ReductionOp) (inputs : List InferenceInput)
    (agrees
      : ∀ axes constant,
          inputs[1]? = some axes
          → axes.constant = some constant
          → constant.desc? = some axes.desc)
    (small : ∀ data, inputs[0]? = some data → data.desc.shape.rank < twoPow 63)
    : op.DependsOnAxes inputs where
  accepts := accepted_iff_valid agrees small
  records := by
    rintro data axes constant rfl valid
    refine ⟨_, _, inferInPlace_of_valid valid (small data rfl), ?_, ?_⟩
    · exact fun axis => mem_namedAxes valid.inRange
    · exact reduced_reduce (namedAxes_lt valid.inRange) op.keepDims
  keeps _ := inferInPlace_of_refused
  forgets := inferInPlace_of_earlier
  unordered := by
    rintro data axes constant others other rfl lists othersList same
    rw [accepted_two_iff lists (small data rfl), accepted_two_iff othersList (small data rfl)]
    refine and_congr_right fun _ => forall_congr' fun number => ?_
    rw [same]
  modular := by
    rintro data axes constant others other rfl lists othersList inRange otherInRange congruent
    exact inferInPlace_congr lists othersList (small data rfl) inRange otherInRange congruent
  reports := by
    rintro data axes constant number rfl takes lists first
    rw [inferInPlace_eq, infer_of_out takes lists (small data rfl) first]

/-- A list of axes that is constant. -/
def constantAxes (values : List Int64) : InferenceInput :=
  ⟨⟨.i64, ⟨[values.length]⟩⟩, (Tensor.ofElements .i64 values ⟨[values.length]⟩).toOption⟩

/-- Data of the given extents that are not constant. -/
def variableData (dims : List Nat) : InferenceInput :=
  ⟨⟨.f32, ⟨dims⟩⟩, none⟩

/-- The numbers 1 and -2 name the same one of three axes. The axis 0 of an earlier inference is
forgotten.
-/
theorem inferInPlace_aliased
    : (∀ axes constant,
        [variableData [2, 3, 4], constantAxes [1, -2, 2]][1]? = some axes
        → axes.constant = some constant
        → constant.desc? = some axes.desc)
      ∧ (∀ data,
          [variableData [2, 3, 4], constantAxes [1, -2, 2]][0]? = some data
          → data.desc.shape.rank < twoPow 63)
      ∧ ∃ recorded,
          inferInPlace ⟨.sum, false, .ofList [0]⟩
              [variableData [2, 3, 4], constantAxes [1, -2, 2]]
            = (.ok [⟨.f32, ⟨[2]⟩⟩], ⟨.sum, false, recorded⟩)
          ∧ ∀ axis : Nat, axis ∈ recorded ↔ axis = 1 ∨ axis = 2 := by
  have agrees (axes : InferenceInput) (constant : Tensor)
      (second : [variableData [2, 3, 4], constantAxes [1, -2, 2]][1]? = some axes)
      (known : axes.constant = some constant)
      : constant.desc? = some axes.desc := by
    cases second
    cases known
    rfl
  have small (data : InferenceInput)
      (first : [variableData [2, 3, 4], constantAxes [1, -2, 2]][0]? = some data)
      : data.desc.shape.rank < twoPow 63 := by
    cases first
    decide
  have valid
      : Valid ⟨.sum, false, .ofList [0]⟩ (variableData [2, 3, 4]) (constantAxes [1, -2, 2])
          ⟨⟨.i64, [1, -2, 2]⟩, some ⟨[3]⟩, rfl⟩ := by
    refine ⟨rfl, ⟨rfl, Nat.le_refl 1, rfl, rfl⟩, ?_⟩
    unfold AllInRange
    decide
  have byAxes := inferInPlace_by_axes ⟨.sum, false, .ofList [0]⟩ _ agrees small
  obtain ⟨axes, reduced, done, members, -⟩ := byAxes.records _ _ _ rfl valid
  have value
      : inferInPlace ⟨.sum, false, .ofList [0]⟩
          [variableData [2, 3, 4], constantAxes [1, -2, 2]]
        = (.ok [⟨.f32, ⟨[2]⟩⟩], ⟨.sum, false, .ofList [1, 2]⟩) :=
    rfl
  cases done.symm.trans value
  refine ⟨agrees, small, _, value, fun axis => ?_⟩
  have numbers : Tensor.numbers ⟨⟨.i64, [1, -2, 2]⟩, some ⟨[3]⟩, rfl⟩ = [1, -2, 2] := by
    decide
  have rank : (variableData [2, 3, 4]).desc.shape.rank = 3 := rfl
  rw [members, numbers, rank]
  simp
  omega

/-- The first number that names no axis is reported, so a refusal depends on the order of the
numbers. A number that is the same modulo the rank is refused if it is out of range.
-/
theorem exists_refusal_by_order
    : inferInPlace ⟨.sum, false, .empty⟩ [variableData [4], constantAxes [5, 7]]
        ≠ inferInPlace ⟨.sum, false, .empty⟩ [variableData [4], constantAxes [7, 5]]
      ∧ (inferInPlace ⟨.sum, false, .empty⟩ [variableData [4], constantAxes [0]]).1
        = .ok [⟨.f32, ⟨[]⟩⟩]
      ∧ (inferInPlace ⟨.sum, false, .empty⟩ [variableData [4], constantAxes [1]]).1
        = .error (.shapeInference "v1::ReduceSum" "reduction axis 1 is out of range for rank 1")
      ∧ (0 : Int) % 1 = 1 % 1 := by
  have five
      : inferInPlace ⟨.sum, false, .empty⟩ [variableData [4], constantAxes [5, 7]]
        = (.error (.shapeInference "v1::ReduceSum" "reduction axis 5 is out of range for rank 1"),
            ⟨.sum, false, .empty⟩) :=
    rfl
  have seven
      : inferInPlace ⟨.sum, false, .empty⟩ [variableData [4], constantAxes [7, 5]]
        = (.error (.shapeInference "v1::ReduceSum" "reduction axis 7 is out of range for rank 1"),
            ⟨.sum, false, .empty⟩) :=
    rfl
  refine ⟨?_, rfl, rfl, rfl⟩
  rw [five, seven]
  simp

end ReductionOp

end TensorGraph
