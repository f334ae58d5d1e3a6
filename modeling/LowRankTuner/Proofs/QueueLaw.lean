import Mathlib
import LowRankTuner.Queue.Load
/-!
# Every line of a queue is accounted for

A queue is read as text and split into lines; each line becomes a record or is skipped with a
warning that carries its number from one.  This module proves the loader's law for a queue file
whose bytes are text:

* the records are the accepted lines in order, the warnings the rejected lines in order, so the
  two counts add up to the number of lines and the warned line numbers strictly increase
  (`LoadReport.ofLines_accounts`);
* a record's weight is the line's number when that is finite and above zero, and `1` otherwise,
  so every weight is finite and positive; a record counts as defaulted exactly when its line gave
  no such number (`parseRecord_weight`);
* the summary counts the records, its tiers add up to that count, and its least and greatest
  weights are the extreme weights of the records, or zero when there are none
  (`WeightSummary.ofRecords_extremes`);
* refusing an empty report names every line as skipped (`LoadReport.intoRecords_ofLines`).

The whole file is read as text before any line is looked at, so a file that is not UTF-8 fails
to load at all, whatever its lines hold (`loadQueue_fails_on_stray_byte`).  The main statement,
`loadQueue_text_or_io`, says both at once: every queue file either holds text and loads with a
report that accounts for each of its lines, or fails to load as a whole.

Weights are doubles.  On finite values above zero the IEEE comparisons are the lexicographic
order of exponent and mantissa (`PositiveWeight.le_iff`), which makes them a total order there.
-/

open Float.Model Float.Model.UnpackedFloat

namespace LowRankTuner

/-! ## Positive weights -/

/-- The unpacked value of a double. -/
def unpacked64 (w : Float) : UnpackedFloat := w.toModel.unpack

theorem lt_iff_unpacked (a b : Float) : a < b ↔ (unpacked64 a).lt (unpacked64 b) = true := by
  show Float.lt a b = true ↔ _
  unfold Float.lt
  simp only [decide_eq_true_eq]
  rfl

theorem le_iff_unpacked (a b : Float) : a ≤ b ↔ (unpacked64 a).le (unpacked64 b) = true := by
  show Float.le a b = true ↔ _
  unfold Float.le
  simp only [decide_eq_true_eq]
  rfl

/-- A weight that a record keeps: finite and above zero. -/
def PositiveWeight (w : Float) : Prop := w.isFinite = true ∧ 0 < w

theorem positiveWeight_iff (w : Float) :
    PositiveWeight w ↔ ∃ m e h, unpacked64 w = .finite .positive m e h := by
  rw [PositiveWeight, lt_iff_unpacked, show w.isFinite = (unpacked64 w).isFinite from rfl,
    show unpacked64 0 = .zero .positive from rfl]
  cases unpacked64 w with
  | notANumber => simp [UnpackedFloat.isFinite]
  | infinity s => simp [UnpackedFloat.isFinite]
  | zero s => simp [UnpackedFloat.lt, UnpackedFloat.compare]
  | finite s m e h =>
    cases s <;> simp [UnpackedFloat.isFinite, UnpackedFloat.lt, UnpackedFloat.compare, h]

/-- Positive finite values compare by exponent, then by mantissa. -/
theorem compare_positive (m₁ m₂ : Nat) (e₁ e₂ : Int) (h₁ : 0 < m₁) (h₂ : 0 < m₂) :
    UnpackedFloat.compare (.finite .positive m₁ e₁ h₁) (.finite .positive m₂ e₂ h₂) =
      some ((compare e₁ e₂).then (compare m₁ m₂)) := rfl

theorem lexLE_iff (m₁ m₂ : Nat) (e₁ e₂ : Int) :
    ((compare e₁ e₂).then (compare m₁ m₂)).isLE = true ↔ e₁ < e₂ ∨ (e₁ = e₂ ∧ m₁ ≤ m₂) := by
  rcases Int.lt_trichotomy e₁ e₂ with he | rfl | he
  · simp [Int.compare_eq_lt.2 he, he]
  · rcases Nat.lt_trichotomy m₁ m₂ with hm | rfl | hm
    · simp [Nat.compare_eq_lt.2 hm, Nat.le_of_lt hm]
    · simp
    · simp [Nat.compare_eq_gt.2 hm]; omega
  · simp [Int.compare_eq_gt.2 he]; omega

theorem lexLT_iff (m₁ m₂ : Nat) (e₁ e₂ : Int) :
    (compare e₁ e₂).then (compare m₁ m₂) = .lt ↔ e₁ < e₂ ∨ (e₁ = e₂ ∧ m₁ < m₂) := by
  rcases Int.lt_trichotomy e₁ e₂ with he | rfl | he
  · simp [Int.compare_eq_lt.2 he, he]
  · simp [Nat.compare_eq_lt]
  · simp [Int.compare_eq_gt.2 he]; omega

/-- The binary exponent of a finite nonzero value, zero for the rest. -/
def exponent64 (w : Float) : Int :=
  match unpacked64 w with
  | .finite _ _ e _ => e
  | _ => 0

/-- The mantissa of a finite nonzero value, zero for the rest. -/
def mantissa64 (w : Float) : Nat :=
  match unpacked64 w with
  | .finite _ m _ _ => m
  | _ => 0

theorem positiveWeight_one : PositiveWeight 1.0 :=
  (positiveWeight_iff _).2 ⟨2 ^ 52, -52, by decide, rfl⟩

namespace PositiveWeight

variable {a b c : Float}

theorem unpacked_eq (ha : PositiveWeight a) :
    ∃ h, unpacked64 a = .finite .positive (mantissa64 a) (exponent64 a) h := by
  obtain ⟨m, e, h, hu⟩ := (positiveWeight_iff a).1 ha
  exact ⟨by simpa [mantissa64, hu] using h, by simp [mantissa64, exponent64, hu]⟩

/-- Positive weights compare by exponent, then by mantissa. -/
theorem le_iff (ha : PositiveWeight a) (hb : PositiveWeight b) :
    a ≤ b ↔ exponent64 a < exponent64 b ∨
      (exponent64 a = exponent64 b ∧ mantissa64 a ≤ mantissa64 b) := by
  obtain ⟨_, hua⟩ := ha.unpacked_eq
  obtain ⟨_, hub⟩ := hb.unpacked_eq
  rw [le_iff_unpacked, hua, hub, ← lexLE_iff]
  simp [UnpackedFloat.le, compare_positive]

theorem lt_iff (ha : PositiveWeight a) (hb : PositiveWeight b) :
    a < b ↔ exponent64 a < exponent64 b ∨
      (exponent64 a = exponent64 b ∧ mantissa64 a < mantissa64 b) := by
  obtain ⟨_, hua⟩ := ha.unpacked_eq
  obtain ⟨_, hub⟩ := hb.unpacked_eq
  rw [lt_iff_unpacked, hua, hub, ← lexLT_iff]
  simp [UnpackedFloat.lt, compare_positive]

theorem le_refl (ha : PositiveWeight a) : a ≤ a := by
  rw [le_iff ha ha]; omega

theorem le_of_not_lt (ha : PositiveWeight a) (hb : PositiveWeight b) (h : ¬ b < a) : a ≤ b := by
  rw [le_iff ha hb]; rw [lt_iff hb ha] at h; omega

theorem le_of_lt (ha : PositiveWeight a) (hb : PositiveWeight b) (h : a < b) : a ≤ b := by
  rw [le_iff ha hb]; rw [lt_iff ha hb] at h; omega

theorem le_trans (ha : PositiveWeight a) (hb : PositiveWeight b) (hc : PositiveWeight c)
    (hab : a ≤ b) (hbc : b ≤ c) : a ≤ c := by
  rw [le_iff ha hb] at hab; rw [le_iff hb hc] at hbc; rw [le_iff ha hc]; omega

theorem isNaN_eq (ha : PositiveWeight a) : a.isNaN = false := by
  obtain ⟨_, hu⟩ := ha.unpacked_eq
  show (unpacked64 a).isNaN = false
  rw [hu]; rfl

theorem lt_infinity (ha : PositiveWeight a) : a < 1.0 / 0.0 := by
  obtain ⟨_, hu⟩ := ha.unpacked_eq
  rw [lt_iff_unpacked, hu, show unpacked64 (1.0 / 0.0) = .infinity .positive from rfl]
  rfl

theorem negInfinity_lt (ha : PositiveWeight a) : -(1.0 / 0.0) < a := by
  obtain ⟨_, hu⟩ := ha.unpacked_eq
  rw [lt_iff_unpacked, hu, show unpacked64 (-(1.0 / 0.0)) = .infinity .negative from rfl]
  rfl

/-- A positive weight equals itself. -/
theorem beq_self (ha : PositiveWeight a) : (a == a) = true := by
  obtain ⟨_, hu⟩ := ha.unpacked_eq
  show (unpacked64 a).beq (unpacked64 a) = true
  rw [hu]
  simp [UnpackedFloat.beq, compare_positive]

end PositiveWeight

/-- A value equal to a positive weight is a positive weight. -/
theorem positiveWeight_of_beq {a b : Float} (hb : PositiveWeight b) (h : (a == b) = true) :
    PositiveWeight a := by
  obtain ⟨_, hub⟩ := hb.unpacked_eq
  have h' : (unpacked64 a).beq (unpacked64 b) = true := h
  rw [hub] at h'
  rw [positiveWeight_iff]
  cases hu : unpacked64 a with
  | notANumber => rw [hu] at h'; simp [UnpackedFloat.beq, UnpackedFloat.compare] at h'
  | infinity s => rw [hu] at h'; cases s <;> simp [UnpackedFloat.beq, UnpackedFloat.compare] at h'
  | zero s => rw [hu] at h'; simp [UnpackedFloat.beq, UnpackedFloat.compare] at h'
  | finite s m e hm =>
    rw [hu] at h'
    cases s with
    | negative => simp [UnpackedFloat.beq, UnpackedFloat.compare] at h'
    | positive => exact ⟨m, e, hm, rfl⟩

/-! ## Sanitized weights -/

theorem not_isNaN_and_not_isInf (w : Float) : (!w.isNaN && !w.isInf) = w.isFinite := by
  show (!(unpacked64 w).isNaN && !(unpacked64 w).isInf) = (unpacked64 w).isFinite
  cases unpacked64 w <;> rfl

theorem sanitizeWeight_of_positive {w : Float} (hw : PositiveWeight w) :
    sanitizeWeight (some w) = w := by
  simp only [sanitizeWeight, not_isNaN_and_not_isInf, hw.1, Bool.true_and]
  rw [if_pos (by simpa using hw.2)]

theorem sanitizeWeight_of_not_positive {w : Float} (hw : ¬ PositiveWeight w) :
    sanitizeWeight (some w) = defaultWeight := by
  simp only [sanitizeWeight, not_isNaN_and_not_isInf]
  rw [if_neg]
  simpa [PositiveWeight] using hw

/-- A sanitized weight is positive, whatever it was given. -/
theorem positiveWeight_sanitizeWeight (o : Option Float) : PositiveWeight (sanitizeWeight o) := by
  cases o with
  | none => exact positiveWeight_one
  | some w =>
    by_cases hw : PositiveWeight w
    · rw [sanitizeWeight_of_positive hw]; exact hw
    · rw [sanitizeWeight_of_not_positive hw]; exact positiveWeight_one

/-! ## One line -/

/-- The weight a queue object gives: any number under `weight`, the last one if repeated. -/
def rawWeight (fields : List (String × Json)) : Option Float :=
  ((Json.obj fields).field? "weight").bind Json.float?

/-- A line the loader accepts reads as a JSON object with a string query and response; the
record's weight is the object's weight when that is a positive number and the default weight
otherwise, and it counts as defaulted exactly when the object gives no positive number. -/
theorem parseRecord_weight {l : String} {r : TrainingRecord} {d : Bool}
    (h : parseRecord l = .ok (r, d)) :
    ∃ fields, Json.parse l = .ok (.obj fields) ∧
      queueField fields "query" = .ok r.query ∧ queueField fields "response" = .ok r.response ∧
      (∀ w, rawWeight fields = some w → PositiveWeight w → r.weight = w) ∧
      ((¬ ∃ w, rawWeight fields = some w ∧ PositiveWeight w) → r.weight = defaultWeight) ∧
      (d = true ↔ ¬ ∃ w, rawWeight fields = some w ∧ PositiveWeight w) := by
  unfold parseRecord at h
  simp only [bind, Except.bind, pure, Except.pure] at h
  split at h
  · cases h
  split at h
  case h_2 => cases h
  rename_i v hv
  split at h
  case h_2 => cases h
  rename_i fields
  cases hq : queueField fields "query" with
  | error e => rw [hq] at h; cases h
  | ok q =>
    cases hr : queueField fields "response" with
    | error e => rw [hq, hr] at h; cases h
    | ok resp =>
      rw [hq, hr] at h
      simp only [Except.ok.injEq, Prod.mk.injEq] at h
      obtain ⟨rfl, rfl⟩ := h
      refine ⟨fields, hv, hq, hr, ?_, ?_, ?_⟩
      · intro w hw hpos
        show sanitizeWeight (rawWeight fields) = w
        rw [hw, sanitizeWeight_of_positive hpos]
      · intro hnone
        show sanitizeWeight (rawWeight fields) = defaultWeight
        cases hraw : rawWeight fields with
        | none => rfl
        | some w => exact sanitizeWeight_of_not_positive fun hw => hnone ⟨w, hraw, hw⟩
      · rw [← rawWeight]
        cases hraw : rawWeight fields with
        | none => simp
        | some w =>
          by_cases hw : PositiveWeight w
          · simp only [sanitizeWeight_of_positive hw, hw.beq_self]
            simp only [Bool.not_true, Bool.false_eq_true, false_iff, Classical.not_not]
            exact ⟨w, rfl, hw⟩
          · rw [sanitizeWeight_of_not_positive hw]
            have hne : (w == defaultWeight) = false := by
              cases hb : (w == defaultWeight)
              · rfl
              · exact absurd (positiveWeight_of_beq positiveWeight_one hb) hw
            simp only [hne, Bool.not_false, true_iff]
            rintro ⟨w', hw', hpos⟩
            cases hw'
            exact hw hpos

/-! ## The lines of a queue -/

/-- The record a line becomes, if any. -/
def lineRecord (l : String) : Option TrainingRecord := (parseRecord l).toOption.map Prod.fst

/-- Whether a line becomes a record whose weight was defaulted. -/
def lineDefaulted (l : String) : Bool :=
  match parseRecord l with
  | .ok (_, d) => d
  | .error _ => false

/-- The warning for the line at an index from zero, if it is skipped. -/
def lineWarning (l : String) (i : Nat) : Option LineWarning :=
  match parseRecord l with
  | .ok _ => none
  | .error f => some ⟨i + 1, f.reason⟩

/-- One line's effect on the loader's accumulators, records and warnings last first. -/
def lineStep (acc : List TrainingRecord × List LineWarning × Nat) (il : Nat × String) :
    List TrainingRecord × List LineWarning × Nat :=
  match parseRecord il.2 with
  | .ok (r, d) => (r :: acc.1, acc.2.1, if d then acc.2.2 + 1 else acc.2.2)
  | .error f => (acc.1, ⟨il.1 + 1, f.reason⟩ :: acc.2.1, acc.2.2)

namespace LoadReport

theorem ofLines_eq (path : String) (ls : List String) :
    ofLines path ls =
      let (rs, ws, n) := (ls.zipIdx.map (fun (l, i) => (i, l))).foldl lineStep ([], [], 0)
      { path, records := rs.reverse, warnings := ws.reverse, defaultedWeights := n,
        summary := WeightSummary.ofRecords rs.reverse } := by
  unfold ofLines
  congr 2

/-- The loader's fold keeps, last first, the records and warnings of the lines it has read,
and counts their defaulted weights. -/
theorem foldl_lineStep (xs : List (Nat × String)) (rs : List TrainingRecord)
    (ws : List LineWarning) (n : Nat) :
    xs.foldl lineStep (rs, ws, n) =
      ((xs.filterMap fun il => lineRecord il.2).reverse ++ rs,
       (xs.filterMap fun il => lineWarning il.2 il.1).reverse ++ ws,
       n + (xs.filter fun il => lineDefaulted il.2).length) := by
  induction xs generalizing rs ws n with
  | nil => simp
  | cons il xs ih =>
    rw [List.foldl_cons]
    cases hp : parseRecord il.2 with
    | ok rd =>
      obtain ⟨r, d⟩ := rd
      have hstep : lineStep (rs, ws, n) il = (r :: rs, ws, if d then n + 1 else n) := by
        simp [lineStep, hp]
      have hr : lineRecord il.2 = some r := by simp [lineRecord, hp, Except.toOption]
      have hw : lineWarning il.2 il.1 = none := by simp [lineWarning, hp]
      have hd : lineDefaulted il.2 = d := by simp [lineDefaulted, hp]
      rw [hstep, ih]
      simp only [List.filterMap_cons, hr, hw, List.filter_cons, hd, List.reverse_cons,
        List.append_assoc, List.singleton_append]
      cases d with
      | false => simp
      | true =>
        simp
        omega
    | error f =>
      have hstep : lineStep (rs, ws, n) il = (rs, ⟨il.1 + 1, f.reason⟩ :: ws, n) := by
        simp [lineStep, hp]
      have hr : lineRecord il.2 = none := by simp [lineRecord, hp, Except.toOption]
      have hw : lineWarning il.2 il.1 = some ⟨il.1 + 1, f.reason⟩ := by simp [lineWarning, hp]
      have hd : lineDefaulted il.2 = false := by simp [lineDefaulted, hp]
      rw [hstep, ih]
      simp only [List.filterMap_cons, hr, hw, List.filter_cons, hd, List.reverse_cons,
        List.append_assoc, List.singleton_append]
      simp

theorem records_ofLines (path : String) (ls : List String) :
    (ofLines path ls).records = ls.filterMap lineRecord := by
  rw [ofLines_eq, foldl_lineStep]
  simp only [List.append_nil, List.reverse_reverse, List.filterMap_map]
  conv => rhs; rw [← List.zipIdx_map_fst 0 ls, List.filterMap_map]
  rfl

theorem warnings_ofLines (path : String) (ls : List String) :
    (ofLines path ls).warnings = ls.zipIdx.filterMap fun p => lineWarning p.1 p.2 := by
  rw [ofLines_eq, foldl_lineStep]
  simp only [List.append_nil, List.reverse_reverse, List.filterMap_map]
  rfl

theorem defaultedWeights_ofLines (path : String) (ls : List String) :
    (ofLines path ls).defaultedWeights = ls.countP lineDefaulted := by
  rw [ofLines_eq, foldl_lineStep]
  simp only [Nat.zero_add, ← List.countP_eq_length_filter, List.countP_map]
  conv => rhs; rw [← List.zipIdx_map_fst 0 ls, List.countP_map]
  rfl

/-- Every line is a record or a warning, and never both. -/
theorem length_records_add_warnings (path : String) (ls : List String) :
    (ofLines path ls).records.length + (ofLines path ls).warnings.length = ls.length := by
  rw [records_ofLines, warnings_ofLines]
  suffices ∀ k, (ls.filterMap lineRecord).length +
      ((ls.zipIdx k).filterMap fun p => lineWarning p.1 p.2).length = ls.length from this 0
  induction ls with
  | nil => simp
  | cons l ls ih =>
    intro k
    rw [List.zipIdx_cons, List.filterMap_cons, List.filterMap_cons]
    have hrest := ih (k + 1)
    cases hp : parseRecord l with
    | ok rd =>
      have hr : lineRecord l = some rd.1 := by simp [lineRecord, hp, Except.toOption]
      have hw : lineWarning l k = none := by simp [lineWarning, hp]
      simp only [hr, hw, List.length_cons]
      omega
    | error f =>
      have hr : lineRecord l = none := by simp [lineRecord, hp, Except.toOption]
      have hw : lineWarning l k = some ⟨k + 1, f.reason⟩ := by simp [lineWarning, hp]
      simp only [hr, hw, List.length_cons]
      omega

/-- The warning of a line names that line. -/
theorem line_of_lineWarning {l : String} {i : Nat} {w : LineWarning}
    (h : lineWarning l i = some w) : w.line = i + 1 := by
  unfold lineWarning at h
  split at h
  · cases h
  · cases h; rfl

/-- The numbers of the warned lines strictly increase. -/
theorem warning_lines_increase (path : String) (ls : List String) :
    ((ofLines path ls).warnings.map (·.line)).Pairwise (· < ·) := by
  rw [warnings_ofLines]
  suffices ∀ k, (((ls.zipIdx k).filterMap fun p => lineWarning p.1 p.2).map (·.line)).Pairwise
      (· < ·) ∧ ∀ w ∈ (ls.zipIdx k).filterMap (fun p => lineWarning p.1 p.2), k < w.line from
    (this 0).1
  induction ls with
  | nil => simp
  | cons l ls ih =>
    intro k
    obtain ⟨hpair, hbound⟩ := ih (k + 1)
    rw [List.zipIdx_cons, List.filterMap_cons]
    cases hw : lineWarning l k with
    | none =>
      refine ⟨hpair, fun w hw' => ?_⟩
      have := hbound w hw'
      omega
    | some w =>
      have hline := line_of_lineWarning hw
      refine ⟨?_, ?_⟩
      · rw [List.map_cons, List.pairwise_cons]
        refine ⟨fun x hx => ?_, hpair⟩
        obtain ⟨w', hw', rfl⟩ := List.mem_map.1 hx
        have := hbound w' hw'
        omega
      · intro w' hw'
        rcases List.mem_cons.1 hw' with rfl | hw'
        · omega
        · have := hbound w' hw'
          omega

end LoadReport

/-! ## The summary -/

namespace WeightSummary

/-- One record's effect on the summary being accumulated and the running total. -/
def summaryStep (acc : WeightSummary × Float) (r : TrainingRecord) : WeightSummary × Float :=
  let s := { acc.1 with min := fmin acc.1.min r.weight, max := fmax acc.1.max r.weight }
  let s := match r.tier with
    | .high => { s with high := s.high + 1 }
    | .medium => { s with medium := s.medium + 1 }
    | .normal => { s with normal := s.normal + 1 }
  (s, acc.2 + r.weight)

theorem ofRecords_cons (r : TrainingRecord) (rs : List TrainingRecord) :
    ofRecords (r :: rs) =
      let s := ((r :: rs).foldl summaryStep
        (⟨rs.length + 1, 1.0 / 0.0, -(1.0 / 0.0), 0, 0, 0, 0⟩, 0.0)).1
      { s with mean := ((r :: rs).foldl summaryStep
        (⟨rs.length + 1, 1.0 / 0.0, -(1.0 / 0.0), 0, 0, 0, 0⟩, 0.0)).2 /
          (rs.length + 1).toUInt64.toFloat } := by
  unfold ofRecords
  rfl

section Fold

variable (rs : List TrainingRecord) (s : WeightSummary) (t : Float)

theorem count_foldl_summaryStep : (rs.foldl summaryStep (s, t)).1.count = s.count := by
  induction rs generalizing s t with
  | nil => rfl
  | cons r rs ih =>
    rw [List.foldl_cons, summaryStep, ih]
    cases r.tier <;> rfl

theorem tiers_foldl_summaryStep :
    (rs.foldl summaryStep (s, t)).1.high + (rs.foldl summaryStep (s, t)).1.medium +
      (rs.foldl summaryStep (s, t)).1.normal = s.high + s.medium + s.normal + rs.length := by
  induction rs generalizing s t with
  | nil => rfl
  | cons r rs ih =>
    rw [List.foldl_cons, summaryStep, ih, List.length_cons]
    cases r.tier <;> simp <;> omega

theorem min_foldl_summaryStep :
    (rs.foldl summaryStep (s, t)).1.min = (rs.map (·.weight)).foldl fmin s.min := by
  induction rs generalizing s t with
  | nil => rfl
  | cons r rs ih =>
    rw [List.foldl_cons, summaryStep, ih, List.map_cons, List.foldl_cons]
    cases r.tier <;> rfl

theorem max_foldl_summaryStep :
    (rs.foldl summaryStep (s, t)).1.max = (rs.map (·.weight)).foldl fmax s.max := by
  induction rs generalizing s t with
  | nil => rfl
  | cons r rs ih =>
    rw [List.foldl_cons, summaryStep, ih, List.map_cons, List.foldl_cons]
    cases r.tier <;> rfl

end Fold

section Extremes

variable {a b : Float}

theorem fmin_of_positive (ha : PositiveWeight a) (hb : PositiveWeight b) :
    fmin a b = if b < a then b else a := by
  simp only [fmin, ha.isNaN_eq, hb.isNaN_eq, Bool.false_eq_true, if_false]

theorem fmax_of_positive (ha : PositiveWeight a) (hb : PositiveWeight b) :
    fmax a b = if a < b then b else a := by
  simp only [fmax, ha.isNaN_eq, hb.isNaN_eq, Bool.false_eq_true, if_false, gt_iff_lt]

/-- The least of the first weight and the rest, taken left to right. -/
theorem foldl_fmin {m : Float} (ws : List Float) (hm : PositiveWeight m)
    (hws : ∀ w ∈ ws, PositiveWeight w) :
    PositiveWeight (ws.foldl fmin m) ∧ ws.foldl fmin m ≤ m ∧
      (∀ w ∈ ws, ws.foldl fmin m ≤ w) ∧ (ws.foldl fmin m = m ∨ ws.foldl fmin m ∈ ws) := by
  induction ws generalizing m with
  | nil => exact ⟨hm, hm.le_refl, nofun, .inl rfl⟩
  | cons w ws ih =>
    have hw := hws w (List.mem_cons_self ..)
    have hrest : ∀ v ∈ ws, PositiveWeight v := fun v hv => hws v (List.mem_cons_of_mem w hv)
    rw [List.foldl_cons, fmin_of_positive hm hw]
    by_cases hlt : w < m
    · -- the new weight is the least so far
      rw [if_pos hlt]
      obtain ⟨hpos, hle, hall, hmem⟩ := ih hw hrest
      refine ⟨hpos, hpos.le_trans hw hm hle (hw.le_of_lt hm hlt), ?_, ?_⟩
      · intro v hv
        rcases List.mem_cons.1 hv with rfl | hv
        · exact hle
        · exact hall v hv
      · rcases hmem with h | h
        · rw [h]; exact .inr (List.mem_cons_self ..)
        · exact .inr (List.mem_cons_of_mem w h)
    · rw [if_neg hlt]
      obtain ⟨hpos, hle, hall, hmem⟩ := ih hm hrest
      refine ⟨hpos, hle, ?_, ?_⟩
      · intro v hv
        rcases List.mem_cons.1 hv with rfl | hv
        · exact hpos.le_trans hm hw hle (hm.le_of_not_lt hw hlt)
        · exact hall v hv
      · rcases hmem with h | h
        · exact .inl h
        · exact .inr (List.mem_cons_of_mem w h)

/-- The greatest of the first weight and the rest, taken left to right. -/
theorem foldl_fmax {m : Float} (ws : List Float) (hm : PositiveWeight m)
    (hws : ∀ w ∈ ws, PositiveWeight w) :
    PositiveWeight (ws.foldl fmax m) ∧ m ≤ ws.foldl fmax m ∧
      (∀ w ∈ ws, w ≤ ws.foldl fmax m) ∧ (ws.foldl fmax m = m ∨ ws.foldl fmax m ∈ ws) := by
  induction ws generalizing m with
  | nil => exact ⟨hm, hm.le_refl, nofun, .inl rfl⟩
  | cons w ws ih =>
    have hw := hws w (List.mem_cons_self ..)
    have hrest : ∀ v ∈ ws, PositiveWeight v := fun v hv => hws v (List.mem_cons_of_mem w hv)
    rw [List.foldl_cons, fmax_of_positive hm hw]
    by_cases hlt : m < w
    · -- the new weight is the greatest so far
      rw [if_pos hlt]
      obtain ⟨hpos, hle, hall, hmem⟩ := ih hw hrest
      refine ⟨hpos, hm.le_trans hw hpos (hm.le_of_lt hw hlt) hle, ?_, ?_⟩
      · intro v hv
        rcases List.mem_cons.1 hv with rfl | hv
        · exact hle
        · exact hall v hv
      · rcases hmem with h | h
        · rw [h]; exact .inr (List.mem_cons_self ..)
        · exact .inr (List.mem_cons_of_mem w h)
    · rw [if_neg hlt]
      obtain ⟨hpos, hle, hall, hmem⟩ := ih hm hrest
      refine ⟨hpos, hle, ?_, ?_⟩
      · intro v hv
        rcases List.mem_cons.1 hv with rfl | hv
        · exact hw.le_trans hm hpos (hw.le_of_not_lt hm hlt) hle
        · exact hall v hv
      · rcases hmem with h | h
        · exact .inl h
        · exact .inr (List.mem_cons_of_mem w h)

theorem fmin_infinity {w : Float} (hw : PositiveWeight w) : fmin (1.0 / 0.0) w = w := by
  rw [fmin, if_neg (by decide), if_neg (by rw [hw.isNaN_eq]; decide), if_pos hw.lt_infinity]

theorem fmax_negInfinity {w : Float} (hw : PositiveWeight w) : fmax (-(1.0 / 0.0)) w = w := by
  rw [fmax, if_neg (by decide), if_neg (by rw [hw.isNaN_eq]; decide), if_pos hw.negInfinity_lt]

/-- The summary of records with positive weights counts them, splits them into tiers, and has
the least and greatest of their weights, or zero for both when there are none. -/
theorem ofRecords_extremes (rs : List TrainingRecord) (hpos : ∀ r ∈ rs, PositiveWeight r.weight) :
    (ofRecords rs).count = rs.length ∧
      (ofRecords rs).high + (ofRecords rs).medium + (ofRecords rs).normal = rs.length ∧
      (rs = [] → (ofRecords rs).min = 0 ∧ (ofRecords rs).max = 0) ∧
      (∀ r ∈ rs, (ofRecords rs).min ≤ r.weight ∧ r.weight ≤ (ofRecords rs).max) ∧
      (rs ≠ [] → (∃ r ∈ rs, (ofRecords rs).min = r.weight) ∧
        ∃ r ∈ rs, (ofRecords rs).max = r.weight) := by
  cases rs with
  | nil => exact ⟨rfl, rfl, fun _ => ⟨rfl, rfl⟩, nofun, fun h => absurd rfl h⟩
  | cons r rs =>
    have hr := hpos r (List.mem_cons_self ..)
    have hws : ∀ w ∈ rs.map (·.weight), PositiveWeight w := by
      intro w hw
      obtain ⟨r', hr', rfl⟩ := List.mem_map.1 hw
      exact hpos r' (List.mem_cons_of_mem r hr')
    have hmin : (ofRecords (r :: rs)).min = (rs.map (·.weight)).foldl fmin r.weight := by
      rw [ofRecords_cons]
      dsimp only
      rw [min_foldl_summaryStep, List.map_cons, List.foldl_cons, fmin_infinity hr]
    have hmax : (ofRecords (r :: rs)).max = (rs.map (·.weight)).foldl fmax r.weight := by
      rw [ofRecords_cons]
      dsimp only
      rw [max_foldl_summaryStep, List.map_cons, List.foldl_cons, fmax_negInfinity hr]
    obtain ⟨hminpos, hminle, hminall, hminmem⟩ := foldl_fmin _ hr hws
    obtain ⟨hmaxpos, hmaxle, hmaxall, hmaxmem⟩ := foldl_fmax _ hr hws
    refine ⟨?_, ?_, nofun, ?_, fun _ => ⟨?_, ?_⟩⟩
    · rw [ofRecords_cons]
      dsimp only
      rw [count_foldl_summaryStep, List.length_cons]
    · rw [ofRecords_cons]
      dsimp only
      rw [tiers_foldl_summaryStep]
      exact Nat.zero_add _
    · intro r' hr'
      rw [hmin, hmax]
      rcases List.mem_cons.1 hr' with rfl | hr'
      · exact ⟨hminle, hmaxle⟩
      · exact ⟨hminall _ (List.mem_map_of_mem hr'), hmaxall _ (List.mem_map_of_mem hr')⟩
    · rw [hmin]
      rcases hminmem with h | h
      · exact ⟨r, List.mem_cons_self .., h⟩
      · obtain ⟨r', hr', he⟩ := List.mem_map.1 h
        exact ⟨r', List.mem_cons_of_mem r hr', he.symm⟩
    · rw [hmax]
      rcases hmaxmem with h | h
      · exact ⟨r, List.mem_cons_self .., h⟩
      · obtain ⟨r', hr', he⟩ := List.mem_map.1 h
        exact ⟨r', List.mem_cons_of_mem r hr', he.symm⟩

end Extremes

end WeightSummary

/-! ## Loading a queue file -/

namespace LoadReport

theorem path_ofLines (path : String) (ls : List String) : (ofLines path ls).path = path := by
  rw [ofLines_eq]

theorem summary_ofLines (path : String) (ls : List String) :
    (ofLines path ls).summary = WeightSummary.ofRecords (ofLines path ls).records := by
  rw [ofLines_eq]

/-- A report without records is refused, and the refusal counts every line as skipped. -/
theorem intoRecords_ofLines (path : String) (ls : List String) :
    (ofLines path ls).intoRecords =
      if (ofLines path ls).records = [] then .error (.noValidRecords path ls.length)
      else .ok (ofLines path ls).records := by
  have htotal := length_records_add_warnings path ls
  unfold intoRecords
  by_cases h : (ofLines path ls).records = []
  · rw [if_pos (List.isEmpty_iff.2 h), if_pos h, path_ofLines]
    rw [h, List.length_nil, Nat.zero_add] at htotal
    rw [htotal]
  · rw [if_neg (by simpa using h), if_neg h]

end LoadReport

theorem mem_lineRecord {l : String} {x : TrainingRecord} (h : lineRecord l = some x) :
    ∃ d, parseRecord l = .ok (x, d) := by
  unfold lineRecord at h
  cases hp : parseRecord l with
  | error f => rw [hp] at h; cases h
  | ok rd =>
    rw [hp] at h
    cases h
    exact ⟨rd.2, rfl⟩

/-- What a report says of the lines it was read from: each line became a record or a warning,
in order; weights are positive; the summary and the refusal of an empty report agree with the
records. -/
structure AccountsFor (ls : List String) (r : LoadReport) : Prop where
  records : r.records = ls.filterMap lineRecord
  warnings : r.warnings = ls.zipIdx.filterMap fun p => lineWarning p.1 p.2
  defaulted : r.defaultedWeights = ls.countP lineDefaulted
  total : r.records.length + r.warnings.length = ls.length
  increasing : (r.warnings.map (·.line)).Pairwise (· < ·)
  positive : ∀ x ∈ r.records, PositiveWeight x.weight
  count : r.summary.count = r.records.length
  tiers : r.summary.high + r.summary.medium + r.summary.normal = r.records.length
  bounds : ∀ x ∈ r.records, r.summary.min ≤ x.weight ∧ x.weight ≤ r.summary.max
  attained : r.records ≠ [] →
    (∃ x ∈ r.records, r.summary.min = x.weight) ∧ ∃ x ∈ r.records, r.summary.max = x.weight
  empty : r.records = [] → r.summary.min = 0 ∧ r.summary.max = 0
  refused : r.intoRecords =
    if r.records = [] then .error (.noValidRecords r.path ls.length) else .ok r.records

theorem LoadReport.ofLines_accounts (path : String) (ls : List String) :
    AccountsFor ls (LoadReport.ofLines path ls) := by
  have hpos : ∀ x ∈ (LoadReport.ofLines path ls).records, PositiveWeight x.weight := by
    intro x hx
    rw [LoadReport.records_ofLines] at hx
    obtain ⟨l, -, hl⟩ := List.mem_filterMap.1 hx
    obtain ⟨d, hp⟩ := mem_lineRecord hl
    obtain ⟨fields, -, -, -, hkept, hdefault, -⟩ := parseRecord_weight hp
    by_cases hw : ∃ w, rawWeight fields = some w ∧ PositiveWeight w
    · obtain ⟨w, hraw, hw⟩ := hw
      rw [hkept w hraw hw]
      exact hw
    · rw [hdefault hw]
      exact positiveWeight_one
  obtain ⟨hcount, htiers, hempty, hbounds, hattained⟩ :=
    WeightSummary.ofRecords_extremes _ hpos
  rw [← LoadReport.summary_ofLines] at hcount htiers hempty hbounds hattained
  exact ⟨LoadReport.records_ofLines path ls, LoadReport.warnings_ofLines path ls,
    LoadReport.defaultedWeights_ofLines path ls, LoadReport.length_records_add_warnings path ls,
    LoadReport.warning_lines_increase path ls, hpos, hcount, htiers, hbounds, hattained, hempty,
    by rw [LoadReport.path_ofLines]; exact LoadReport.intoRecords_ofLines path ls⟩

/-- A queue file that reads as text loads, and its report accounts for every line. -/
theorem loadQueue_accounts_for_every_line {d : Disk} {path content : String}
    (hfile : d.isFile path = true) (htext : d.readText path = .ok content) :
    ∃ r, loadQueue d path = .ok r ∧ AccountsFor (Text.lines content) r := by
  refine ⟨LoadReport.ofLines path (Text.lines content), ?_, LoadReport.ofLines_accounts ..⟩
  simp [loadQueue, hfile, htext, bind, Except.bind, pure, Except.pure]

/-- A queue file that does not read as text fails to load as a whole. -/
theorem loadQueue_of_not_text {d : Disk} {path e : String}
    (hfile : d.isFile path = true) (htext : d.readText path = .error e) :
    loadQueue d path = .error (.io e) := by
  simp [loadQueue, hfile, htext, bind, Except.bind, throw, throwThe, MonadExceptOf.throw]

theorem resolve_q : Disk.resolve [] "q" = ["q"] := by
  simp [Disk.resolve, Disk.segments, List.splitOn, List.splitOnP, List.splitOnPPrepend]

/-- A queue whose first line is a well-formed record and whose second line holds two bytes that
are not UTF-8 does not load: the whole file is refused as text before any line is read. -/
theorem loadQueue_fails_on_stray_byte :
    let bytes : ByteArray := ⟨#[123, 34, 113, 117, 101, 114, 121, 34, 58, 34, 97, 34, 44, 34, 114,
      101, 115, 112, 111, 110, 115, 101, 34, 58, 34, 98, 34, 125, 10, 255, 254, 10]⟩
    (parseRecord "\x7b\"query\":\"a\",\"response\":\"b\"\x7d").toBool = true ∧
    loadQueue ⟨[(["q"], .file bytes)], []⟩ "q" = .error (.io "stream did not contain valid UTF-8") := by
  refine ⟨by decide, loadQueue_of_not_text ?_ ?_⟩
  · simp [Disk.isFile, Disk.entry?, Disk.locate, resolve_q, Disk.entryAt]
  · have hbad : String.fromUTF8? ⟨#[123, 34, 113, 117, 101, 114, 121, 34, 58, 34, 97, 34, 44, 34,
        114, 101, 115, 112, 111, 110, 115, 101, 34, 58, 34, 98, 34, 125, 10, 255, 254, 10]⟩ = none := by
      decide
    simp [Disk.readText, Disk.readBytes, Disk.entry?, Disk.locate, resolve_q, Disk.entryAt, hbad,
      bind, Except.bind]

/-- Every queue file either holds text, and then loads with a report that accounts for each of
its lines, or holds bytes that are not UTF-8, and then fails to load as a whole. -/
theorem loadQueue_text_or_io {d : Disk} {path : String} {b : ByteArray}
    (hb : d.entryAt (d.locate path) = some (.file b)) :
    (∃ content, String.fromUTF8? b = some content ∧
      ∃ r, loadQueue d path = .ok r ∧ AccountsFor (Text.lines content) r) ∨
      (String.fromUTF8? b = none ∧
        loadQueue d path = .error (.io "stream did not contain valid UTF-8")) := by
  have hfile : d.isFile path = true := by simp [Disk.isFile, Disk.entry?, hb]
  -- the file is decoded once, before any line is looked at
  cases hc : String.fromUTF8? b with
  | some content =>
    have htext : d.readText path = .ok content := by
      simp [Disk.readText, Disk.readBytes, Disk.entry?, hb, hc, bind, Except.bind]
    exact .inl ⟨content, rfl, loadQueue_accounts_for_every_line hfile htext⟩
  | none =>
    have htext : d.readText path = .error "stream did not contain valid UTF-8" := by
      simp [Disk.readText, Disk.readBytes, Disk.entry?, hb, hc, bind, Except.bind]
    exact .inr ⟨rfl, loadQueue_of_not_text hfile htext⟩

theorem loadQueue_text_or_io_on_stray_byte :
    let bytes : ByteArray := ⟨#[123, 34, 113, 117, 101, 114, 121, 34, 58, 34, 97, 34, 44, 34, 114,
      101, 115, 112, 111, 110, 115, 101, 34, 58, 34, 98, 34, 125, 10, 255, 254, 10]⟩
    let d : Disk := ⟨[(["q"], .file bytes)], []⟩
    d.entryAt (d.locate "q") = some (.file bytes) ∧
      ((∃ content, String.fromUTF8? bytes = some content ∧
        ∃ r, loadQueue d "q" = .ok r ∧ AccountsFor (Text.lines content) r) ∨
        (String.fromUTF8? bytes = none ∧
          loadQueue d "q" = .error (.io "stream did not contain valid UTF-8"))) := by
  intro bytes d
  have hb : d.entryAt (d.locate "q") = some (.file bytes) := by
    simp [d, Disk.locate, resolve_q, Disk.entryAt]
  exact ⟨hb, loadQueue_text_or_io hb⟩

end LowRankTuner
