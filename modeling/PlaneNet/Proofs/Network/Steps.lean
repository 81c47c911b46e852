import PlaneNet.Proofs.Network.Sound

set_option autoImplicit false

namespace PlaneNet.Network

variable {W R : Type} [Scalar R] [Storage W R]

open Scalar (zero)

section Errors

def passedDown (rows : List (List W)) (above errors : List R) : List R :=
  (rows.zip above).foldl addErrors errors

theorem length_passedDown (rows : List (List W)) (above errors : List R)
    (long : ∀ row ∈ rows, row.length = errors.length + 1) :
    (passedDown rows above errors).length = errors.length := by
  induction rows generalizing above errors with
  | nil => rfl
  | cons row rest ih =>
    cases above with
    | nil => rfl
    | cons e es =>
      have first : (addErrors errors (row, e)).length = errors.length := by
        simp [addErrors, long row (by simp)]
      have next := ih es (addErrors errors (row, e))
        (fun other member => by rw [first]; exact long other (by simp [member]))
      rw [first] at next
      exact next

def errorsBelow (n : Network W R) (layer : Nat) : List R :=
  passedDown ((List.range (n.topology.width (layer + 1))).map (n.topology.row n.weights (layer + 1)))
    ((n.topology.slotSpan (layer + 1)).slice n.errors) ((n.topology.slotSpan layer).slice n.errors)

variable {n : Network W R} (sound : n.Sound) {layer : Nat} (sums : n.topology.HoldsSums layer)
  (within : layer + 1 < n.topology.depth)

include sound sums within

theorem length_errorsBelow : (n.errorsBelow layer).length = n.topology.width layer := by
  have above := Topology.holdsSums_succ sums
  have length : ((n.topology.slotSpan layer).slice n.errors).length = n.topology.width layer :=
    Span.length_slice _ _ (sound.slotSpan_stop_le_errors sums (Nat.lt_of_succ_lt within))
  rw [errorsBelow, length_passedDown, length]
  intro row member
  obtain ⟨unit, inLayer, rfl⟩ := List.mem_map.mp member
  rw [Topology.length_row sound.weights above.1 within (List.mem_range.mp inLayer),
    Topology.rowLength_of_sums above, length, Nat.add_sub_cancel]

theorem backwardLayer_eq_ok :
    n.backwardLayer layer =
      .ok { n with errors := (n.topology.slotSpan layer).splice (n.errorsBelow layer) n.errors } := by
  have above := Topology.holdsSums_succ sums
  have start := Topology.slotSpan_stop sums
  have inside : n.topology.slotsBelow (layer + 1) ≤ n.errors.length :=
    start ▸ sound.slotSpan_stop_le_errors sums (Nat.lt_of_succ_lt within)
  have insideNext : (n.topology.slotSpan (layer + 1)).stop ≤ n.errors.length :=
    sound.slotSpan_stop_le_errors above within
  have full := length_errorsBelow sound sums within
  have cut := Buffer.cut_eq_ok _ _ inside
  have readThis := Buffer.read_take_eq_ok start.le inside
  have readNext := Buffer.read_drop_eq_ok insideNext
  have readRows := Topology.rows_eq_ok sound.weights above.1 within
  have written : Buffer.write (n.topology.slotSpan layer) (n.errorsBelow layer)
        (n.errors.take (n.topology.slotsBelow (layer + 1))) =
      .ok ((n.topology.slotSpan layer).splice (n.errorsBelow layer)
        (n.errors.take (n.topology.slotsBelow (layer + 1)))) :=
    Buffer.write_eq_ok _ _ _ (by rw [List.length_take]; omega) full
  have whole := Span.splice_take_append_drop _ _ (n.errorsBelow layer) n.errors start.le inside
  rw [Topology.rowLength_of_sums above, Nat.add_sub_cancel] at readRows
  simp only [errorsBelow, passedDown, Topology.slotSpan] at readThis readNext written whole ⊢
  simp only [backwardLayer, sound.trained_eq sums (Nat.lt_of_succ_lt within), sound.trained_eq above within,
    sound.layer_eq within, ok_bind, Topology.slotSpan, Topology.spans_weights, cut, readThis, readNext,
    sound.read_weights_eq_ok within, readRows, written, whole, pure_eq_ok]

end Errors

section Backward

-- The errors when a backward pass has come down to layer `done`: those above are passed down, those below as they were.
structure PassedTo (n : Network W R) (e : R) (done : Nat) (es : List R) : Prop where
  length : es.length = n.errors.length
  output : (n.topology.slotSpan n.topology.outputLayer).slice es = [e]
  passed : ∀ layer, n.topology.HoldsSums layer → done ≤ layer → layer < n.topology.outputLayer →
    (n.topology.slotSpan layer).slice es =
      passedDown ((List.range (n.topology.width (layer + 1))).map (n.topology.row n.weights (layer + 1)))
        ((n.topology.slotSpan (layer + 1)).slice es) ((n.topology.slotSpan layer).slice n.errors)
  left : ∀ layer, n.topology.HoldsSums layer → layer < done → layer < n.topology.outputLayer →
    (n.topology.slotSpan layer).slice es = (n.topology.slotSpan layer).slice n.errors

variable {n : Network W R} (sound : n.Sound) {e : R}

include sound

theorem passedTo_output (e : R) :
    n.PassedTo e n.topology.outputLayer ((n.topology.slotSpan n.topology.outputLayer).splice [e] n.errors) := by
  have sums := sound.accepted.outputLayer_holdsSums
  have stop := sound.slotSpan_stop_le_errors sums sound.accepted.outputLayer_lt
  have same : [e].length = (n.topology.slotSpan n.topology.outputLayer).length := sound.accepted.output.symm
  constructor
  case length => exact Span.length_splice _ _ _ stop same
  case output => exact Span.slice_splice _ _ _ stop same
  case passed => exact fun layer _ low high => absurd high (Nat.not_lt.mpr low)
  case left =>
    intro layer sums' below _
    exact Span.slice_splice_of_apart _ _ _ _ stop same (Topology.slotSpan_apart sums sums' (Nat.ne_of_lt below))

theorem PassedTo.step {layer : Nat} {es : List R} (before : n.PassedTo e (layer + 1) es)
    (sums : n.topology.HoldsSums layer) (hidden : layer < n.topology.outputLayer) :
    n.PassedTo e layer
      ((n.topology.slotSpan layer).splice ({ n with errors := es }.errorsBelow layer) es) := by
  have within := sound.accepted.hidden_add_one_lt hidden
  have kept := sound.with_errors before.length
  have stop := kept.slotSpan_stop_le_errors sums (Nat.lt_of_succ_lt within)
  have same := length_errorsBelow kept sums within
  -- The layer's own errors are the only ones that are written.
  have other {i : Nat} (sums' : n.topology.HoldsSums i) (different : i ≠ layer) :
      (n.topology.slotSpan i).slice
          ((n.topology.slotSpan layer).splice ({ n with errors := es }.errorsBelow layer) es) =
        (n.topology.slotSpan i).slice es :=
    Span.slice_splice_of_apart _ _ _ _ stop same (Topology.slotSpan_apart sums sums' different)
  constructor
  case length => exact (Span.length_splice _ _ _ stop same).trans before.length
  case output =>
    rw [other sound.accepted.outputLayer_holdsSums (Nat.ne_of_gt hidden)]
    exact before.output
  case passed =>
    intro i sums' low high
    rw [other (Topology.holdsSums_succ sums') (by omega)]
    rcases Nat.eq_or_lt_of_le low with rfl | above
    · rw [Span.slice_splice _ _ _ stop same, ← before.left layer sums (Nat.lt_succ_self layer) hidden]
      rfl
    · rw [other sums' (Nat.ne_of_gt above)]
      exact before.passed i sums' above high
  case left =>
    intro i sums' below high
    rw [other sums' (Nat.ne_of_lt below)]
    exact before.left i sums' (Nat.lt_succ_of_lt below) high

theorem backward_passedTo (target : R) :
    ∃ out es, n.output = .ok out ∧ n.backward target = .ok (target - out, { n with errors := es }) ∧
      n.PassedTo (target - out) n.topology.firstTrained es := by
  obtain ⟨out, read⟩ := sound.output_eq_ok
  have sums := sound.accepted.outputLayer_holdsSums
  have within := sound.accepted.outputLayer_lt
  have first := sound.accepted.firstTrained_le sums within
  have begun := passedTo_output sound (target - out)
  have set := Buffer.write_eq_ok _ [target - out] _ (sound.slotSpan_stop_le_errors sums within)
    sound.accepted.output.symm
  rw [Topology.slotSpan, sound.accepted.output] at set begun
  have step (layer : Nat) (m : Network W R) (low : n.topology.firstTrained ≤ layer)
      (high : layer < n.topology.firstTrained + (n.topology.outputLayer - n.topology.firstTrained))
      (before : ∃ es, m = { n with errors := es } ∧ n.PassedTo (target - out) (layer + 1) es) :
      ∃ next, backwardLayer m layer = .ok next ∧
        ∃ es, next = { n with errors := es } ∧ n.PassedTo (target - out) layer es := by
    obtain ⟨es, rfl, passed⟩ := before
    have trained : layer ∈ n.topology.trainedLayers := by
      rw [Topology.trainedLayers, List.mem_range'_1]
      omega
    have sums := (sound.accepted.mem_trainedLayers_iff.mp trained).1
    have hidden : layer < n.topology.outputLayer := by omega
    exact ⟨_, backwardLayer_eq_ok (sound.with_errors passed.length) sums (sound.accepted.hidden_add_one_lt hidden),
      _, rfl, passed.step sound sums hidden⟩
  obtain ⟨_, run, es, rfl, passed⟩ := foldlM_reverse_range'
    (P := fun layer m => ∃ es, m = { n with errors := es } ∧ n.PassedTo (target - out) layer es)
    n.topology.firstTrained (n.topology.outputLayer - n.topology.firstTrained) step _
    ⟨_, rfl, (Nat.add_sub_cancel' first).symm ▸ begun⟩
  rw [Nat.add_sub_cancel' first] at run
  refine ⟨out, es, read, ?_, passed⟩
  simp only [backward, sound.trained_eq sums within, ok_bind, read, Topology.slotSpan, set, hiddenTrained]
  exact congrArg (· >>= fun m => pure (target - out, m)) run

theorem backward_sound {target e : R} {after : Network W R} (run : n.backward target = .ok (e, after)) :
    after.Sound ∧ after = { n with errors := after.errors } := by
  obtain ⟨out, es, -, again, passed⟩ := backward_passedTo sound target
  cases again.symm.trans run
  exact ⟨sound.with_errors passed.length, rfl⟩

end Backward

section Update

section Rows

variable (activation : Activation) (rate coefficient : R) (inputs : List R)

theorem length_stepRow (delta : R) (ws : List W) (ms vs : List R) :
    (stepRow delta coefficient ws ms vs).1.length = ws.length ∧
      (stepRow delta coefficient ws ms vs).2.length = ms.length := by
  induction ws generalizing ms vs with
  | nil => cases ms <;> exact ⟨rfl, rfl⟩
  | cons w ws ih =>
    cases ms with
    | nil => exact ⟨rfl, rfl⟩
    | cons m ms =>
      cases vs with
      | nil => exact ⟨rfl, rfl⟩
      | cons v vs =>
        obtain ⟨weights, momentums⟩ := ih ms vs
        simp [stepRow, weights, momentums]

variable [Exponential R]

theorem length_stepRows (width : Nat) (wss : List (List W)) (mss : List (List R)) (zs es : List R)
    (momentums : mss.length = wss.length) (sums : zs.length = wss.length) (errors : es.length = wss.length)
    (wide : ∀ row ∈ wss, row.length = width) (wide' : ∀ row ∈ mss, row.length = width) :
    ((stepRows activation rate coefficient inputs wss mss zs es).flatMap (·.1)).length = wss.length * width ∧
      ((stepRows activation rate coefficient inputs wss mss zs es).flatMap (·.2)).length =
        wss.length * width := by
  induction wss generalizing mss zs es with
  | nil => simp [stepRows]
  | cons ws wss ih =>
    match mss, zs, es, momentums, sums, errors with
    | ms :: mss, z :: zs, e :: es, momentums, sums, errors =>
      obtain ⟨first, first'⟩ :=
        length_stepRow coefficient (activation.derive z * e * rate) ws ms inputs
      obtain ⟨rest, rest'⟩ := ih mss zs es (Nat.succ.inj momentums) (Nat.succ.inj sums) (Nat.succ.inj errors)
        (fun row member => wide row (by simp [member])) (fun row member => wide' row (by simp [member]))
      simp [stepRows, first, first', rest, rest', wide ws (by simp), wide' ms (by simp), Nat.succ_mul,
        Nat.add_comm]

end Rows

variable [Exponential R]

def stepped (n : Network W R) (rate coefficient : R) (layer : Nat) : List (List W × List R) :=
  stepRows n.activation rate coefficient ((n.topology.valueSpan (layer - 1)).slice n.values)
    ((List.range (n.topology.width layer)).map (n.topology.row n.weights layer))
    ((List.range (n.topology.width layer)).map (n.topology.row n.momentums layer))
    ((n.topology.slotSpan layer).slice n.preActivations) ((n.topology.slotSpan layer).slice n.errors)

variable {n : Network W R} (rate coefficient : R)

section Layer

variable (sound : n.Sound) {layer : Nat} (sums : n.topology.HoldsSums layer)
  (within : layer < n.topology.depth)

include sound sums within

theorem length_stepped :
    ((n.stepped rate coefficient layer).flatMap (·.1)).length = (n.topology.weightSpan layer).length ∧
      ((n.stepped rate coefficient layer).flatMap (·.2)).length = (n.topology.weightSpan layer).length := by
  have long {α : Type} (buffer : List α) (full : buffer.length = n.topology.weightsBelow n.topology.depth)
      (row : List α) (member : row ∈ (List.range (n.topology.width layer)).map (n.topology.row buffer layer)) :
      row.length = n.topology.rowLength layer := by
    obtain ⟨unit, inLayer, rfl⟩ := List.mem_map.mp member
    exact Topology.length_row full sums.1 within (List.mem_range.mp inLayer)
  have slots := Topology.slotSpan_stop_le sums within
  have lengths := length_stepRows n.activation rate coefficient
    ((n.topology.valueSpan (layer - 1)).slice n.values) (n.topology.rowLength layer)
    ((List.range (n.topology.width layer)).map (n.topology.row n.weights layer))
    ((List.range (n.topology.width layer)).map (n.topology.row n.momentums layer))
    ((n.topology.slotSpan layer).slice n.preActivations) ((n.topology.slotSpan layer).slice n.errors)
    (by simp) (by rw [Span.length_slice _ _ (sound.preActivations ▸ slots)]; simp [Topology.slotSpan])
    (by rw [Span.length_slice _ _ (sound.errors ▸ slots)]; simp [Topology.slotSpan])
    (long n.weights sound.weights) (long n.momentums sound.momentums)
  rw [List.length_map, List.length_range] at lengths
  rw [Topology.weightSpan, Topology.weightCount_of_pos sums.1, Nat.mul_comm]
  exact lengths

theorem updateLayer_eq_ok :
    n.updateLayer rate coefficient layer = .ok
      { n with
        weights := (n.topology.weightSpan layer).splice
          ((n.stepped rate coefficient layer).flatMap (·.1)) n.weights
        momentums := (n.topology.weightSpan layer).splice
          ((n.stepped rate coefficient layer).flatMap (·.2)) n.momentums } := by
  have below : layer - 1 < n.topology.depth := by omega
  have stop := Topology.weightSpan_stop_le within
  have slots := Topology.slotSpan_stop_le sums within
  have inputs := Buffer.read_eq_ok (n.topology.valueSpan (layer - 1)) n.values
    (sound.values ▸ Topology.valueSpan_stop_le below)
  have preActivations := Buffer.read_eq_ok (n.topology.slotSpan layer) n.preActivations
    (sound.preActivations ▸ slots)
  have errors := Buffer.read_eq_ok (n.topology.slotSpan layer) n.errors (sound.errors ▸ slots)
  have momentums := Buffer.read_eq_ok (n.topology.weightSpan layer) n.momentums (sound.momentums ▸ stop)
  have weightRows := Topology.rows_eq_ok sound.weights sums.1 within
  have momentumRows := Topology.rows_eq_ok sound.momentums sums.1 within
  rw [Topology.rowLength_of_sums sums] at weightRows momentumRows
  obtain ⟨length, length'⟩ := length_stepped rate coefficient sound sums within
  have weights := Buffer.write_eq_ok _ _ n.weights (sound.weights ▸ stop) length
  have momentums' := Buffer.write_eq_ok _ _ n.momentums (sound.momentums ▸ stop) length'
  rw [stepped] at weights momentums' ⊢
  simp only [updateLayer, sound.layer_eq below, sound.layer_eq within, sound.trained_eq sums within, ok_bind,
    Topology.spans_weights, Topology.spans_values, Topology.valueSpan_length, inputs, preActivations, errors,
    sound.read_weights_eq_ok within, momentums, weightRows, momentumRows, weights, momentums', pure_eq_ok]

-- Layers of sums lie above the weights of Gaussian units, whose momentum therefore stays.
theorem updateLayer_sound :
    ∃ ws ms, n.updateLayer rate coefficient layer = .ok { n with weights := ws, momentums := ms } ∧
      { n with weights := ws, momentums := ms }.Sound := by
  have stop := Topology.weightSpan_stop_le within
  obtain ⟨length, length'⟩ := length_stepped rate coefficient sound sums within
  refine ⟨_, _, updateLayer_eq_ok rate coefficient sound sums within, ?_⟩
  exact
    { sound with
      weights := (Span.length_splice _ _ _ (sound.weights ▸ stop) length).trans sound.weights
      momentums := (Span.length_splice _ _ _ (sound.momentums ▸ stop) length').trans sound.momentums
      rested := by
        intro rbf i below
        have two : 2 ≤ layer := by
          have gaussian : n.topology.isGaussianLayer 1 = true := Topology.isGaussianLayer_one.trans rbf
          have other : layer ≠ 1 := by
            rintro rfl
            rw [sums.2] at gaussian
            cases gaussian
          have := sums.1
          omega
        have start : n.topology.weightCount 1 ≤ n.topology.weightsBelow layer := by
          have first : n.topology.weightsBelow 2 = n.topology.weightsBelow 1 + n.topology.weightCount 1 :=
            Topology.weightsBelow_succ n.topology 1
          have := Topology.weightsBelow_le (t := n.topology) two
          omega
        rw [Span.getElem?_splice_below _ _ _ (below.trans_le start) (sound.momentums ▸ stop)]
        exact sound.rested rbf i below }

end Layer

theorem update_eq_ok (sound : n.Sound) :
    ∃ ws ms, n.update rate coefficient = .ok { n with weights := ws, momentums := ms } ∧
      { n with weights := ws, momentums := ms }.Sound := by
  have step (m : Network W R) (before : ∃ ws ms, m = { n with weights := ws, momentums := ms } ∧ m.Sound)
      (layer : Nat) (member : layer ∈ n.topology.trainedLayers) :
      ∃ next, updateLayer rate coefficient m layer = .ok next ∧
        ∃ ws ms, next = { n with weights := ws, momentums := ms } ∧ next.Sound := by
    obtain ⟨_, _, rfl, kept⟩ := before
    obtain ⟨sums, within⟩ := sound.accepted.mem_trainedLayers_iff.mp member
    obtain ⟨ws, ms, run, after⟩ := updateLayer_sound rate coefficient kept sums within
    exact ⟨_, run, ws, ms, rfl, after⟩
  obtain ⟨last, run, ws, ms, rfl, after⟩ := foldlM_invariant _ step n ⟨n.weights, n.momentums, rfl, sound⟩
  exact ⟨ws, ms, run, after⟩

theorem update_sound {after : Network W R} (sound : n.Sound) (run : n.update rate coefficient = .ok after) :
    after.Sound := by
  obtain ⟨ws, ms, again, kept⟩ := update_eq_ok rate coefficient sound
  cases again.symm.trans run
  exact kept

end Update

end PlaneNet.Network
