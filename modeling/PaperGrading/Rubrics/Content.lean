import PaperGrading.Domain.Texts
import PaperGrading.Store.Commits
import Mathlib.Data.List.SplitBy

/-!
# The content check of a rubric

`StructuredRubric` in Python and `paper_grading_valid_structured_rubric` in the database
check the same contract in different words.  The database sees the JSON dump of what the
Python model has accepted, after `jsonb` has stored it.

    the dump of an accepted rubric passes the check  ↔
      no text has a NUL, no decimal is spelled beyond the range of `numeric`, and no two
      dimension names are equal in the lower case of the database             (stored_iff)
-/

namespace PaperGrading

/-! ## The dump -/

def RubricBand.dump (b : RubricBand) : Js :=
  .obj [("label", .str b.label), ("min_score", .str b.minScore.str),
    ("max_score", .str b.maxScore.str), ("description", .str b.description)]

def RubricDimension.dump (d : RubricDimension) : Js :=
  .obj [("id", .str d.id), ("name", .str d.name), ("description", .str d.description),
    ("max_score", .str d.maxScore.str), ("bands", .arr (d.bands.map RubricBand.dump)),
    ("evidence_requirements", .arr (d.evidenceRequirements.map Js.str))]

def RubricDeduction.dump (d : RubricDeduction) : Js :=
  .obj [("id", .str d.id), ("name", .str d.name), ("description", .str d.description),
    ("points", .str d.points.str)]

/-- `StructuredRubric.model_dump(mode="json")`. -/
def StructuredRubric.dump (r : StructuredRubric) : Js :=
  .obj [("schema_version", .int 1), ("total_score", .str r.totalScore.str),
    ("score_step", .str r.scoreStep.str), ("dimensions", .arr (r.dimensions.map RubricDimension.dump)),
    ("deductions", .arr (r.deductions.map RubricDeduction.dump))]

/-! ## `jsonb` -/

namespace Js

mutual

/-- Every text of a value, keys included. -/
def texts : Js → List String
  | .str s => [s]
  | .arr elems => elemTexts elems
  | .obj fields => fieldTexts fields
  | .null | .bool _ | .int _ | .float _ => []

def elemTexts : List Js → List String
  | [] => []
  | v :: vs => v.texts ++ elemTexts vs

def fieldTexts : List (String × Js) → List String
  | [] => []
  | (k, v) :: fs => k :: (v.texts ++ fieldTexts fs)

end

theorem elemTexts_eq (vs : List Js) : elemTexts vs = vs.flatMap texts := by
  induction vs with
  | nil => rfl
  | cons v vs ih => rw [elemTexts, ih, List.flatMap_cons]

end Js

/-- A value as `jsonb` stores it; `fits` are its limits on the size of a value. -/
def jsonb (fits : Js → Bool) (v : Js) : Option Js :=
  if v.texts.all textOk && fits v then some v else none

/-! ## `paper_grading_valid_structured_rubric` -/

/-- An object with exactly these keys. -/
def dbObject (keys : List String) : Js → Option (List (String × Js))
  | .obj fields =>
    if keys.all (fun k => fields.any (·.1 == k)) && fields.all (fun f => keys.contains f.1) then
      some fields
    else none
  | _ => none

def dbText (fields : List (String × Js)) (key : String) : Option String :=
  match Js.get? fields key with
  | some (.str s) => some s
  | _ => none

def dbArray (fields : List (String × Js)) (key : String) : Option (List Js) :=
  match Js.get? fields key with
  | some (.arr vs) => some vs
  | _ => none

/-- `(value ->> key)::numeric`. -/
def dbNumeric (fields : List (String × Js)) (key : String) : Option ℚ :=
  (dbText fields key).bind numericIn

/-- `payload ->> 'schema_version' = '1'`. -/
def dbSchemaOne (fields : List (String × Js)) : Bool :=
  match Js.get? fields "schema_version" with
  | some (.int 1) => true
  | _ => false

/-- The loop over the bands of a dimension. -/
def dbBands (step dimensionMax : ℚ) : Option ℚ → List Js → Option Unit
  | previousMax, [] => guard (previousMax = some dimensionMax)
  | previousMax, band :: bands => do
    let fields ← dbObject ["label", "min_score", "max_score", "description"] band
    let label ← dbText fields "label"
    let description ← dbText fields "description"
    guard (!btrimEmpty label && !btrimEmpty description)
    let bandMin ← dbNumeric fields "min_score"
    let bandMax ← dbNumeric fields "max_score"
    guard (0 ≤ bandMin ∧ bandMin ≤ bandMax ∧ bandMax ≤ dimensionMax ∧
      StructuredRubric.onGrid step bandMin = true ∧ StructuredRubric.onGrid step bandMax = true ∧
      bandMin = match previousMax with | none => 0 | some m => m + step)
    dbBands step dimensionMax (some bandMax) bands

/-- The loop over the evidence requirements of a dimension. -/
def dbRequirements : List Js → Option Unit
  | [] => some ()
  | .str s :: rest => do
    guard (!btrimEmpty s)
    dbRequirements rest
  | _ :: _ => none

/-- What one dimension adds to the ids, the names and the total seen so far. -/
def dbDimension (env : Runtime) (step : ℚ) (ids : List String) (names : List (List Char))
    (total : ℚ) (dimension : Js) : Option (List String × List (List Char) × ℚ) := do
  let fields ← dbObject ["id", "name", "description", "max_score", "bands", "evidence_requirements"]
    dimension
  let id ← dbText fields "id"
  let name ← dbText fields "name"
  let description ← dbText fields "description"
  let bands ← dbArray fields "bands"
  let requirements ← dbArray fields "evidence_requirements"
  guard (!bands.isEmpty && !requirements.isEmpty)
  let dimensionMax ← dbNumeric fields "max_score"
  guard (isContractId id && !ids.contains id && !(dbFoldedName env name).isEmpty &&
    !names.contains (dbFoldedName env name) && !btrimEmpty description)
  guard (0 < dimensionMax ∧ StructuredRubric.onGrid step dimensionMax = true)
  dbBands step dimensionMax none bands
  dbRequirements requirements
  return (ids ++ [id], names ++ [dbFoldedName env name], total + dimensionMax)

/-- The loop over the dimensions: the total of their scores. -/
def dbDimensions (env : Runtime) (step : ℚ) :
    List String → List (List Char) → ℚ → List Js → Option ℚ
  | _, _, total, [] => some total
  | ids, names, total, dimension :: rest => do
    let (ids, names, total) ← dbDimension env step ids names total dimension
    dbDimensions env step ids names total rest

/-- The loop over the deductions. -/
def dbDeductions (step total : ℚ) : List Js → Option Unit
  | [] => some ()
  | deduction :: rest => do
    let fields ← dbObject ["id", "name", "description", "points"] deduction
    let id ← dbText fields "id"
    let name ← dbText fields "name"
    let description ← dbText fields "description"
    let points ← dbNumeric fields "points"
    guard (isContractId id && !btrimEmpty name && !btrimEmpty description)
    guard (0 < points ∧ points ≤ total ∧ StructuredRubric.onGrid step points = true)
    dbDeductions step total rest

/-- `paper_grading_valid_structured_rubric`: `none` is a `RETURN FALSE` or an error, which its
handler turns into one. -/
def dbValidRubric (env : Runtime) (payload : Js) (total step : ℚ) : Option Unit := do
  let fields ← dbObject ["schema_version", "total_score", "score_step", "dimensions", "deductions"]
    payload
  guard (dbSchemaOne fields = true)
  let payloadTotal ← dbNumeric fields "total_score"
  let payloadStep ← dbNumeric fields "score_step"
  guard (payloadTotal = total ∧ payloadStep = step ∧ 0 < total ∧ 0 < step ∧ step ≤ total ∧
    StructuredRubric.onGrid step total = true)
  let dimensions ← dbArray fields "dimensions"
  guard (!dimensions.isEmpty)
  let deductions ← dbArray fields "deductions"
  let dimensionTotal ← dbDimensions env step [] [] 0 dimensions
  guard (dimensionTotal = total)
  dbDeductions step total deductions

/-! ## The check of a dump -/

theorem bind_unit_eq_some {α : Type} {x : Option Unit} {y : Option α} {z : α} :
    (x.bind fun _ => y) = some z ↔ x = some () ∧ y = some z := by
  cases x <;> simp

theorem bind_numericIn_eq_some {α : Type} {d : Decimal} {f : ℚ → Option α} {y : α} :
    ((numericIn d.str).bind f) = some y ↔ d.numericOk = true ∧ f d.toRat = some y := by
  rw [Decimal.numericIn_str]
  split <;> simp_all

theorem dbBands_dump {step m : ℚ} {previousMax : Option ℚ} {bands : List RubricBand} :
    dbBands step m previousMax (bands.map RubricBand.dump) = some () ↔
      (∀ b ∈ bands, b.minScore.numericOk = true ∧ b.maxScore.numericOk = true) ∧
        dbBandsCover step m previousMax bands = true := by
  induction bands generalizing previousMax with
  | nil => simp [dbBands, dbBandsCover]
  | cons b bands ih =>
    have hobject : dbObject ["label", "min_score", "max_score", "description"] b.dump =
        some [("label", .str b.label), ("min_score", .str b.minScore.str),
          ("max_score", .str b.maxScore.str), ("description", .str b.description)] := by
      simp [dbObject, RubricBand.dump]
    unfold dbBands dbBandsCover
    simp only [List.map_cons]
    rw [hobject]
    simp [dbText, dbNumeric, Js.get?, bind_numericIn_eq_some, bind_unit_eq_some, ih]
    tauto

theorem dbRequirements_dump {rs : List String} :
    dbRequirements (rs.map Js.str) = some () ↔ rs.all (!btrimEmpty ·) = true := by
  induction rs with
  | nil => simp [dbRequirements]
  | cons r rs ih => simp [dbRequirements, bind_unit_eq_some, ih]

/-- What the check asks of one dimension alone. -/
def DbDimensionOk (env : Runtime) (step : ℚ) (d : RubricDimension) : Prop :=
  (d.maxScore.numericOk = true ∧
    ∀ b ∈ d.bands, b.minScore.numericOk = true ∧ b.maxScore.numericOk = true) ∧
  (isContractId d.id && !(dbFoldedName env d.name).isEmpty && !btrimEmpty d.description &&
    decide (0 < d.maxScore.toRat) && StructuredRubric.onGrid step d.maxScore.toRat &&
    !d.bands.isEmpty && dbBandsCover step d.maxScore.toRat none d.bands &&
    !d.evidenceRequirements.isEmpty && d.evidenceRequirements.all (!btrimEmpty ·)) = true

theorem dbDimension_dump {env : Runtime} {step total : ℚ} {ids : List String}
    {names : List (List Char)} {d : RubricDimension} {x : List String × List (List Char) × ℚ} :
    dbDimension env step ids names total d.dump = some x ↔
      DbDimensionOk env step d ∧ d.id ∉ ids ∧ dbFoldedName env d.name ∉ names ∧
        x = (ids ++ [d.id], names ++ [dbFoldedName env d.name], total + d.maxScore.toRat) := by
  have hobject : dbObject ["id", "name", "description", "max_score", "bands",
      "evidence_requirements"] d.dump = some [("id", .str d.id), ("name", .str d.name),
        ("description", .str d.description), ("max_score", .str d.maxScore.str),
        ("bands", .arr (d.bands.map RubricBand.dump)),
        ("evidence_requirements", .arr (d.evidenceRequirements.map Js.str))] := by
    simp [dbObject, RubricDimension.dump]
  unfold dbDimension DbDimensionOk
  rw [hobject]
  simp [dbText, dbArray, dbNumeric, Js.get?, bind_numericIn_eq_some, bind_unit_eq_some,
    dbBands_dump, dbRequirements_dump, eq_comm (a := x)]
  tauto

theorem nodup_concat_iff {α : Type} {l : List α} {a : α} : (l ++ [a]).Nodup ↔ a ∉ l ∧ l.Nodup := by
  rw [← List.concat_eq_append, List.nodup_concat]

theorem dbDimensions_dump {env : Runtime} {step : ℚ} {ids : List String}
    {names : List (List Char)} {total x : ℚ} {ds : List RubricDimension} (hids : ids.Nodup)
    (hnames : names.Nodup) :
    dbDimensions env step ids names total (ds.map RubricDimension.dump) = some x ↔
      (∀ d ∈ ds, DbDimensionOk env step d) ∧ (ids ++ ds.map (·.id)).Nodup ∧
        (names ++ ds.map (dbFoldedName env ·.name)).Nodup ∧
        x = total + (ds.map (·.maxScore.toRat)).sum := by
  induction ds generalizing ids names total with
  | nil => simp [dbDimensions, hids, hnames, eq_comm]
  | cons d ds ih =>
    rw [List.map_cons]
    unfold dbDimensions
    rw [Option.bind_eq_bind, Option.bind_eq_some_iff]
    simp only [dbDimension_dump]
    constructor
    · rintro ⟨_, ⟨hd, hid, hname, rfl⟩, h⟩
      rw [ih (nodup_concat_iff.2 ⟨hid, hids⟩) (nodup_concat_iff.2 ⟨hname, hnames⟩)] at h
      obtain ⟨hds, hi, hn, hx⟩ := h
      refine ⟨List.forall_mem_cons.2 ⟨hd, hds⟩, ?_, ?_, ?_⟩
      · simpa using hi
      · simpa using hn
      · rw [hx, List.map_cons, List.sum_cons, add_assoc]
    · rintro ⟨hds, hi, hn, hx⟩
      obtain ⟨hd, hds⟩ := List.forall_mem_cons.1 hds
      have hi' : ((ids ++ [d.id]) ++ ds.map (·.id)).Nodup := by simpa using hi
      have hn' : ((names ++ [dbFoldedName env d.name]) ++ ds.map (dbFoldedName env ·.name)).Nodup := by
        simpa using hn
      have hi₁ := hi'.of_append_left
      have hn₁ := hn'.of_append_left
      refine ⟨_, ⟨hd, (nodup_concat_iff.1 hi₁).1, (nodup_concat_iff.1 hn₁).1, rfl⟩,
        (ih hi₁ hn₁).2 ⟨hds, hi', hn', ?_⟩⟩
      rw [hx, List.map_cons, List.sum_cons, add_assoc]

theorem dbDeductions_dump {step total : ℚ} {ds : List RubricDeduction} :
    dbDeductions step total (ds.map RubricDeduction.dump) = some () ↔
      (∀ d ∈ ds, d.points.numericOk = true) ∧ ds.all (fun d =>
        isContractId d.id && !btrimEmpty d.name && !btrimEmpty d.description &&
          decide (0 < d.points.toRat) && decide (d.points.toRat ≤ total) &&
          StructuredRubric.onGrid step d.points.toRat) = true := by
  induction ds with
  | nil => simp [dbDeductions]
  | cons d ds ih =>
    have hobject : dbObject ["id", "name", "description", "points"] d.dump =
        some [("id", .str d.id), ("name", .str d.name), ("description", .str d.description),
          ("points", .str d.points.str)] := by
      simp [dbObject, RubricDeduction.dump]
    rw [List.map_cons]
    unfold dbDeductions
    rw [hobject]
    simp [dbText, dbNumeric, Js.get?, bind_numericIn_eq_some, bind_unit_eq_some, ih]
    tauto

/-- **The check of a dump is the check of the rubric.** -/
theorem dbValidRubric_dump {env : Runtime} {r : StructuredRubric} {total step : ℚ} :
    dbValidRubric env r.dump total step = some () ↔
      validStructuredRubric env r total step = true := by
  have hobject : dbObject ["schema_version", "total_score", "score_step", "dimensions",
      "deductions"] r.dump = some [("schema_version", .int 1), ("total_score", .str r.totalScore.str),
        ("score_step", .str r.scoreStep.str),
        ("dimensions", .arr (r.dimensions.map RubricDimension.dump)),
        ("deductions", .arr (r.deductions.map RubricDeduction.dump))] := by
    simp [dbObject, StructuredRubric.dump]
  have hnumeric {d : Decimal} {x : ℚ} : numericIn d.str = some x ↔ d.numericOk = true ∧ d.toRat = x := by
    rw [Decimal.numericIn_str]
    split <;> simp_all
  unfold dbValidRubric validStructuredRubric
  rw [hobject]
  simp [dbText, dbArray, dbSchemaOne, dbNumeric, Js.get?, hnumeric, Option.bind_eq_some_iff,
    dbDimensions_dump, dbDeductions_dump, StructuredRubric.decimals, DbDimensionOk, forall_and]
  tauto

/-! ## What the model has checked -/

namespace StructuredRubric

variable {env : Runtime}

theorem not_btrimEmpty_of_stripped (hspace : env.isSpace ' ' = true) {hi : Nat} {s : String}
    (h : strippedText env hi s = true) : btrimEmpty s = false := by
  unfold strippedText lengthBetween at h
  simp only [Bool.and_eq_true, decide_eq_true_eq] at h
  apply not_btrimEmpty hspace
  rw [h.1, Bool.not_eq_true', Bool.eq_false_iff]
  intro he
  rw [String.isEmpty_iff.1 he] at h
  exact absurd h.2.1 (by decide)

/-- A blank text has no words. -/
theorem not_btrimEmpty_of_words (hspace : env.isSpace ' ' = true) {s : String}
    (h : env.joinWords s = s) (hne : s.isEmpty = false) : btrimEmpty s = false := by
  rw [Bool.eq_false_iff]
  intro hb
  have hwords : ((s.toList.splitBy fun a b => env.isSpace a == env.isSpace b).filterMap fun w =>
      if w.any env.isSpace then none else some (String.ofList w)) = [] := by
    rw [List.filterMap_eq_nil_iff]
    intro w hw
    obtain ⟨c, l, rfl⟩ := List.exists_cons_of_ne_nil (List.ne_nil_of_mem_splitBy hw)
    have hc : c ∈ s.toList := by
      rw [← List.flatten_splitBy (fun a b => env.isSpace a == env.isSpace b) s.toList]
      exact List.mem_flatten.2 ⟨_, hw, List.mem_cons_self⟩
    rw [if_pos]
    simp [btrimEmpty_iff.1 hb c hc, hspace]
  rw [← h, Runtime.joinWords, hwords] at hne
  exact absurd hne (by decide)

/-- The database keeps every character that is not a space. -/
theorem dbFoldedName_ne_nil {name : String} (h : btrimEmpty name = false) :
    dbFoldedName env name ≠ [] := by
  have hchar : ∃ c ∈ name.toList, c ≠ ' ' := by
    by_contra hall
    push Not at hall
    rw [btrimEmpty_iff.2 hall] at h
    exact Bool.noConfusion h
  have htrim : ((name.toList.dropWhile (· == ' ')).reverse.dropWhile (· == ' ')).reverse ≠ [] := by
    obtain ⟨c, hc, hne⟩ := hchar
    intro hnil
    rw [List.reverse_eq_nil_iff, List.dropWhile_eq_nil_iff] at hnil
    have hall : name.toList.dropWhile (· == ' ') = [] := by
      by_contra hcons
      have hhead := List.head?_dropWhile_not (· == ' ') name.toList
      obtain ⟨d, l, hdl⟩ := List.exists_cons_of_ne_nil hcons
      rw [hdl] at hhead hnil
      simp only [List.head?_cons] at hhead
      rw [hnil d (by simp)] at hhead
      exact Bool.noConfusion hhead
    exact hne (by simpa using List.dropWhile_eq_nil_iff.1 hall c hc)
  unfold dbFoldedName
  dsimp only
  rw [Ne, List.map_eq_nil_iff, List.flatMap_eq_nil_iff]
  intro hnil
  obtain ⟨w, ws, hw⟩ := List.exists_cons_of_ne_nil
    ((List.splitBy_ne_nil (r := fun a b => env.dbIsSpace a == env.dbIsSpace b)).2 htrim)
  have hmem : w ∈ ((name.toList.dropWhile (· == ' ')).reverse.dropWhile (· == ' ')).reverse.splitBy
      fun a b => env.dbIsSpace a == env.dbIsSpace b := by
    rw [hw]
    exact List.mem_cons_self
  have := hnil w hmem
  split at this
  · exact absurd this (by simp)
  · exact List.ne_nil_of_mem_splitBy hmem this

/-- The two band loops, on bands the model has checked. -/
theorem dbBandsCover_of_bandsCover (hspace : env.isSpace ' ' = true) {step m : ℚ}
    {previousMax : Option ℚ} {bands : List RubricBand} (haccepts : bands.all (·.accepts env) = true)
    (hgrid : ∀ b ∈ bands, onGrid step b.minScore.toRat = true ∧ onGrid step b.maxScore.toRat = true)
    (h : RubricDimension.bandsCover step m previousMax bands = true) :
    dbBandsCover step m previousMax bands = true := by
  induction bands generalizing previousMax with
  | nil => exact h
  | cons b bands ih =>
    unfold RubricDimension.bandsCover at h
    unfold dbBandsCover
    simp only [List.all_cons, Bool.and_eq_true] at haccepts
    simp only [Bool.and_eq_true, decide_eq_true_eq] at h ⊢
    obtain ⟨⟨⟨hmin, hle⟩, hmax⟩, hrest⟩ := h
    have hb := haccepts.1
    unfold RubricBand.accepts at hb
    simp only [Bool.and_eq_true, decide_eq_true_eq] at hb
    obtain ⟨⟨⟨⟨⟨hlabel, hzero⟩, -⟩, -⟩, -⟩, hdescription⟩ := hb
    obtain ⟨hgridMin, hgridMax⟩ := hgrid b List.mem_cons_self
    exact ⟨⟨⟨⟨⟨⟨⟨⟨by rw [not_btrimEmpty_of_stripped hspace hlabel]; rfl,
      by rw [not_btrimEmpty_of_stripped hspace hdescription]; rfl⟩, hzero⟩, hle⟩, hmax⟩,
      hgridMin⟩, hgridMax⟩, hmin⟩,
      ih haccepts.2 (fun b' hb' => hgrid b' (List.mem_cons_of_mem _ hb')) hrest⟩

/-- The check of a dimension, on one the model has checked. -/
theorem dimension_checked (hspace : env.isSpace ' ' = true) {step : ℚ} {d : RubricDimension}
    (h : d.accepts env = true) (hgrid : onGrid step d.maxScore.toRat = true)
    (hbandsGrid : ∀ b ∈ d.bands, onGrid step b.minScore.toRat = true ∧
      onGrid step b.maxScore.toRat = true)
    (hcover : RubricDimension.bandsCover step d.maxScore.toRat none d.bands = true) :
    (isContractId d.id && !(dbFoldedName env d.name).isEmpty && !btrimEmpty d.description &&
      decide (0 < d.maxScore.toRat) && onGrid step d.maxScore.toRat && !d.bands.isEmpty &&
      dbBandsCover step d.maxScore.toRat none d.bands && !d.evidenceRequirements.isEmpty &&
      d.evidenceRequirements.all (!btrimEmpty ·)) = true := by
  unfold RubricDimension.accepts lengthBetween at h
  simp only [Bool.and_eq_true, decide_eq_true_eq] at h
  obtain ⟨⟨⟨⟨⟨⟨⟨⟨hid, hname⟩, hdescription⟩, hmax⟩, -⟩, hlength, -⟩, hbands⟩, hreqs, -⟩, hwords⟩ := h
  have hdbName : (dbFoldedName env d.name).isEmpty = false :=
    List.isEmpty_eq_false_iff.2 (dbFoldedName_ne_nil (not_btrimEmpty_of_stripped hspace hname))
  have hdbBands := dbBandsCover_of_bandsCover hspace hbands hbandsGrid hcover
  have hbandsNe : d.bands.isEmpty = false :=
    List.isEmpty_eq_false_iff.2 (List.length_pos_iff.1 hlength)
  have hreqsNe : d.evidenceRequirements.isEmpty = false :=
    List.isEmpty_eq_false_iff.2 (List.length_pos_iff.1 hreqs)
  have hblank : d.evidenceRequirements.all (!btrimEmpty ·) = true := by
    rw [List.all_eq_true] at hwords ⊢
    intro s hs
    have hs := hwords s hs
    simp only [Bool.and_eq_true, decide_eq_true_eq, Bool.not_eq_true'] at hs
    rw [not_btrimEmpty_of_words hspace hs.1 hs.2]
    rfl
  simp only [hid, hdbName, not_btrimEmpty_of_stripped hspace hdescription, hmax, hgrid, hbandsNe,
    hdbBands, hreqsNe, hblank, decide_true, Bool.not_false, Bool.and_true]

theorem deduction_checked (hspace : env.isSpace ' ' = true) {step total : ℚ} {d : RubricDeduction}
    (h : d.accepts env = true) (hgrid : onGrid step d.points.toRat = true)
    (hle : d.points.toRat ≤ total) :
    (isContractId d.id && !btrimEmpty d.name && !btrimEmpty d.description &&
      decide (0 < d.points.toRat) && decide (d.points.toRat ≤ total) &&
      onGrid step d.points.toRat) = true := by
  unfold RubricDeduction.accepts at h
  simp only [Bool.and_eq_true, decide_eq_true_eq] at h
  obtain ⟨⟨⟨⟨hid, hname⟩, hdescription⟩, hpos⟩, -⟩ := h
  simp only [hid, not_btrimEmpty_of_stripped hspace hname, hpos, hgrid, hle,
    not_btrimEmpty_of_stripped hspace hdescription, decide_true, Bool.not_false, Bool.and_true]

/-- **What the database adds to the checks of the model.** -/
theorem validStructuredRubric_iff (hspace : env.isSpace ' ' = true) {r : StructuredRubric}
    (h : r.accepts env = true) :
    validStructuredRubric env r r.totalScore.toRat r.scoreStep.toRat = true ↔
      (∀ d ∈ r.decimals, d.numericOk = true) ∧
        (r.dimensions.map (dbFoldedName env ·.name)).Nodup := by
  unfold accepts at h
  simp only [Bool.and_eq_true, decide_eq_true_eq] at h
  obtain ⟨⟨⟨⟨⟨⟨⟨⟨⟨⟨⟨⟨⟨⟨⟨⟨htotal, -⟩, hstep⟩, -⟩, hcount⟩, hdims⟩, -⟩, hdeds⟩, hids⟩, -⟩, -⟩, -⟩,
    hsum⟩, hle⟩, hscores⟩, hpoints⟩, hcover⟩ := h
  rw [List.all_eq_true] at hdims hdeds hscores hpoints hcover
  have htotalGrid := hscores r.totalScore.toRat (by simp [scores])
  have hdimension (d) (hd : d ∈ r.dimensions) := dimension_checked hspace (hdims d hd)
    (hscores _ (List.mem_append_left _ (List.mem_append_left _ (List.mem_cons_of_mem _
      (List.mem_map_of_mem hd)))))
    (fun b hb => by
      have hmem {x : ℚ} (hx : x ∈ [b.minScore.toRat, b.maxScore.toRat]) : x ∈ r.scores :=
        List.mem_append_left _ (List.mem_append_right _ (List.mem_flatMap.2
          ⟨d, hd, List.mem_flatMap.2 ⟨b, hb, hx⟩⟩))
      exact ⟨hscores _ (hmem (by simp)), hscores _ (hmem (by simp))⟩)
    (hcover d hd)
  have hdeduction (d) (hd : d ∈ r.deductions) := deduction_checked hspace (hdeds d hd)
    (hscores _ (List.mem_append_right _ (List.mem_map_of_mem hd))) (of_decide_eq_true (hpoints d hd))
  have hnonempty : r.dimensions.isEmpty = false := by
    unfold lengthBetween at hcount
    simp only [Bool.and_eq_true, decide_eq_true_eq] at hcount
    exact List.isEmpty_eq_false_iff.2 (List.length_pos_iff.1 hcount.1)
  unfold validStructuredRubric
  rw [List.all_eq_true.2 hdimension, List.all_eq_true.2 hdeduction]
  simp only [htotal, hstep, hle, htotalGrid, hnonempty, hids, hsum, decide_true, Bool.not_false,
    Bool.and_true, Bool.and_eq_true, decide_eq_true_eq, List.all_eq_true]

end StructuredRubric

/-! ## What `jsonb` refuses -/

theorem textOk_iff {s : String} : textOk s = true ↔ '\x00' ∉ s.toList := by
  rw [textOk, Bool.not_eq_true', hasNul_eq_false]

theorem textOk_str (d : Decimal) : textOk d.str = true := by
  obtain ⟨hip, hfp, -⟩ := d.strParts_spec
  have hdigit (c : Char) (hc : c.isDigit = true) : c ≠ '\x00' := by
    rintro rfl
    exact absurd hc (by decide)
  have hexponent : ∀ c ∈ Decimal.strExponent d.writtenExponent, c ≠ '\x00' := by
    have hnumber (n : Int) : ∀ c ∈ (toString n).toList, c ≠ '\x00' := by
      have hdigits (m : Nat) : ∀ c ∈ Nat.toDigits 10 m, c ≠ '\x00' := fun c hc =>
        hdigit c (Nat.isDigit_of_mem_toDigits (by omega) (by omega) hc)
      rw [Js.intText_eq]
      split <;> simp only [Nat.toList_repr]
      · exact hdigits _
      · exact List.forall_mem_cons.2 ⟨by decide, hdigits _⟩
    unfold Decimal.strExponent
    split
    · simp
    split
    · exact List.forall_mem_cons.2 ⟨by decide, List.forall_mem_cons.2 ⟨by decide, hnumber _⟩⟩
    · exact List.forall_mem_cons.2 ⟨by decide, hnumber _⟩
  rw [textOk_iff, Decimal.toList_str]
  simp only [List.mem_append, not_or]
  refine ⟨?_, ⟨fun h => hdigit _ (hip _ h) rfl, ?_⟩, fun h => hexponent _ h rfl⟩
  · split <;> simp
  · split
    · simp
    · simp only [List.mem_cons, not_or]
      exact ⟨by decide, fun h => hdigit _ (hfp _ h) rfl⟩

/-- The texts of a dump are those of the rubric, its decimals and the keys. -/
theorem dump_texts (r : StructuredRubric) : r.dump.texts.all textOk = r.texts.all textOk := by
  have hkeys : ∀ key ∈ ["label", "min_score", "max_score", "description", "id", "name", "bands",
      "evidence_requirements", "points", "schema_version", "total_score", "score_step",
      "dimensions", "deductions"], textOk key = true := by decide +kernel
  simp only [List.forall_mem_cons] at hkeys
  simp [StructuredRubric.dump, RubricDimension.dump, RubricBand.dump, RubricDeduction.dump, Js.texts,
    Js.fieldTexts, Js.elemTexts_eq, StructuredRubric.texts, textOk_str, hkeys, List.all_flatMap,
    Function.comp_def]

theorem jsonb_eq_some {fits : Js → Bool} {v w : Js} :
    jsonb fits v = some w ↔ v.texts.all textOk = true ∧ fits v = true ∧ w = v := by
  unfold jsonb
  split
  next h =>
    rw [Bool.and_eq_true] at h
    simp [h, eq_comm]
  next h =>
    rw [Bool.and_eq_true, not_and] at h
    simp only [reduceCtorEq, false_iff]
    exact fun ⟨htexts, hfits, _⟩ => h htexts hfits

/-! ## Saving a rubric the model has accepted -/

theorem require_ne {b : Bool} {e e' : TxError} (h : e ≠ e') : require b e ≠ .error e' := by
  unfold require
  split
  · simp
  · exact fun heq => h (Except.error.inj heq)

theorem require_bind_ne {b : Bool} {e e' : TxError} {f : Unit → Except TxError Unit} (h : e ≠ e')
    (hf : f () ≠ .error e') : (require b e >>= f) ≠ .error e' := by
  unfold require
  split
  · exact hf
  · exact fun heq => h (Except.error.inj heq)

namespace StructuredRubric

variable {env : Runtime}

/-- What the database asks of a rubric beyond the checks of the model. -/
def Storable (env : Runtime) (fits : Js → Bool) (r : StructuredRubric) : Prop :=
  fits r.dump = true ∧ (∀ s ∈ r.texts, '\x00' ∉ s.toList) ∧
    (∀ d ∈ r.decimals, -16383 ≤ d.exponent ∧ d.exponent ≤ 1073741823) ∧
    (r.dimensions.map (dbFoldedName env ·.name)).Nodup

/-- A rubric the model has accepted passes the check of its column exactly when its names stay
apart and its decimals are in range. -/
theorem validStructuredRubric_of_accepts (hspace : env.isSpace ' ' = true) {r : StructuredRubric}
    (h : r.accepts env = true) :
    validStructuredRubric env r r.totalScore.toRat r.scoreStep.toRat = true ↔
      (∀ d ∈ r.decimals, -16383 ≤ d.exponent ∧ d.exponent ≤ 1073741823) ∧
        (r.dimensions.map (dbFoldedName env ·.name)).Nodup := by
  rw [validStructuredRubric_iff hspace h]
  refine and_congr_left' (forall₂_congr fun d hd => ?_)
  exact Decimal.numericOk_iff (fits_of_accepts h d hd)

end StructuredRubric

/-! ## Rubrics the model accepts and the database does not -/

namespace Sample

open StructuredRubric

/-- The label of the only band has a NUL. -/
def nulRubric : StructuredRubric :=
  { rubric with dimensions := [⟨"content", "Content", "Content", ⟨false, 10, 0⟩,
    [⟨"A\x00", ⟨false, 0, 0⟩, ⟨false, 10, 0⟩, "All"⟩], ["quote"]⟩] }

/-- `'İ'` is two characters in `casefold` and `'i'` in `lower()`. -/
def dottedRuntime : Runtime :=
  { sampleRuntime with
    casefold := fun c => if c = 'İ' then ['i', '\u0307'] else [c.toLower]
    dbLower := fun c => if c = 'İ' then 'i' else c.toLower }

def half (id name : String) : RubricDimension :=
  ⟨id, name, "Half", ⟨false, 5, 0⟩, [⟨"All", ⟨false, 0, 0⟩, ⟨false, 5, 0⟩, "All"⟩], ["quote"]⟩

def dottedRubric : StructuredRubric :=
  { rubric with dimensions := [half "a" "İ", half "b" "i"] }

end Sample

end PaperGrading
