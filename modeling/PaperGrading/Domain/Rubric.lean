import PaperGrading.Domain.Values

/-!
# The structured rubric

`StructuredRubric` with the constraints of its pydantic model.  `accepts` is what
`StructuredRubric.model_validate` checks of an already normalised value, and a
`ValidRubric` carries that check, so code that received a validated rubric never
checks it again.
-/

namespace PaperGrading

structure RubricBand where
  label : String
  minScore : Decimal
  maxScore : Decimal
  description : String
  deriving DecidableEq

structure RubricDimension where
  id : String
  name : String
  description : String
  maxScore : Decimal
  bands : List RubricBand
  evidenceRequirements : List String
  deriving DecidableEq

structure RubricDeduction where
  id : String
  name : String
  description : String
  points : Decimal
  deriving DecidableEq

structure StructuredRubric where
  totalScore : Decimal
  scoreStep : Decimal
  dimensions : List RubricDimension
  deductions : List RubricDeduction
  deriving DecidableEq

/-! ## Field constraints -/

/-- `Field(min_length=lo, max_length=hi)`. -/
def lengthBetween (lo hi : Nat) (n : Nat) : Bool := decide (lo ≤ n) && decide (n ≤ hi)

/-- `Field(pattern=r"^[a-z][a-z0-9_]{0,63}$")`. -/
def isContractId (s : String) : Bool :=
  match s.toList with
  | [] => false
  | c :: cs =>
    c.isLower && decide (cs.length ≤ 63) && cs.all fun d => d.isLower || d.isDigit || d == '_'

/-- The block ids of a document, `^b[0-9]{6}$`. -/
def isBlockId (s : String) : Bool :=
  match s.toList with
  | 'b' :: ds => decide (ds.length = 6) && ds.all Char.isDigit
  | _ => false

/-- A stripped text of `1..hi` characters. -/
def strippedText (env : Runtime) (hi : Nat) (s : String) : Bool :=
  decide (env.strip s = s) && lengthBetween 1 hi s.length

namespace RubricBand

def accepts (env : Runtime) (b : RubricBand) : Bool :=
  strippedText env 120 b.label && decide (0 ≤ b.minScore.toRat) && b.minScore.fits 10 4 &&
    decide (0 ≤ b.maxScore.toRat) && b.maxScore.fits 10 4 && strippedText env 4000 b.description

def toJs (b : RubricBand) : Js :=
  .obj [("label", .str b.label), ("min_score", .str b.minScore.canonical),
    ("max_score", .str b.maxScore.canonical), ("description", .str b.description)]

end RubricBand

namespace RubricDimension

def accepts (env : Runtime) (d : RubricDimension) : Bool :=
  isContractId d.id && strippedText env 160 d.name && strippedText env 4000 d.description &&
    decide (0 < d.maxScore.toRat) && d.maxScore.fits 10 4 &&
    lengthBetween 1 50 d.bands.length && d.bands.all (·.accepts env) &&
    lengthBetween 1 50 d.evidenceRequirements.length &&
    d.evidenceRequirements.all fun r => decide (env.joinWords r = r) && !r.isEmpty

/-- Bands start at zero, follow each other one step apart and end at the maximum. -/
def bandsCover (step : ℚ) (maxScore : ℚ) : Option ℚ → List RubricBand → Bool
  | previousMax, [] => decide (previousMax = some maxScore)
  | previousMax, b :: bands =>
    let expectedMin := match previousMax with
      | none => 0
      | some m => m + step
    decide (b.minScore.toRat = expectedMin) && decide (b.minScore.toRat ≤ b.maxScore.toRat) &&
      decide (b.maxScore.toRat ≤ maxScore) && bandsCover step maxScore (some b.maxScore.toRat) bands

def toJs (d : RubricDimension) : Js :=
  .obj [("id", .str d.id), ("name", .str d.name), ("description", .str d.description),
    ("max_score", .str d.maxScore.canonical), ("bands", .arr (d.bands.map RubricBand.toJs)),
    ("evidence_requirements", .arr (d.evidenceRequirements.map Js.str))]

end RubricDimension

namespace RubricDeduction

def accepts (env : Runtime) (d : RubricDeduction) : Bool :=
  isContractId d.id && strippedText env 160 d.name && strippedText env 4000 d.description &&
    decide (0 < d.points.toRat) && d.points.fits 10 4

def toJs (d : RubricDeduction) : Js :=
  .obj [("id", .str d.id), ("name", .str d.name), ("description", .str d.description),
    ("points", .str d.points.canonical)]

end RubricDeduction

namespace StructuredRubric

/-- `score % step == 0`. -/
def onGrid (step score : ℚ) : Bool := decide ((score / step).den = 1)

/-- Every score the rubric mentions. -/
def scores (r : StructuredRubric) : List ℚ :=
  r.totalScore.toRat :: r.dimensions.map (·.maxScore.toRat) ++
    r.dimensions.flatMap (fun d => d.bands.flatMap fun b => [b.minScore.toRat, b.maxScore.toRat]) ++
    r.deductions.map (·.points.toRat)

/-- Every decimal of the rubric: its scores and the step. -/
def decimals (r : StructuredRubric) : List Decimal :=
  r.totalScore :: r.scoreStep ::
    (r.dimensions.flatMap (fun d => d.maxScore :: d.bands.flatMap fun b => [b.minScore, b.maxScore]) ++
      r.deductions.map (·.points))

/-- `StructuredRubric.model_validate` on a normalised value: field constraints, then the
model validator in the order of the source. -/
def accepts (env : Runtime) (r : StructuredRubric) : Bool :=
  decide (0 < r.totalScore.toRat) && r.totalScore.fits 10 4 &&
    decide (0 < r.scoreStep.toRat) && r.scoreStep.fits 10 4 &&
    lengthBetween 1 100 r.dimensions.length && r.dimensions.all (·.accepts env) &&
    lengthBetween 0 100 r.deductions.length && r.deductions.all (·.accepts env) &&
    decide (r.dimensions.map (·.id)).Nodup &&
    decide (r.dimensions.map (env.foldedName ·.name)).Nodup &&
    decide (r.deductions.map (·.id)).Nodup &&
    decide (r.deductions.map (env.foldedName ·.name)).Nodup &&
    decide ((r.dimensions.map (·.maxScore.toRat)).sum = r.totalScore.toRat) &&
    decide (r.scoreStep.toRat ≤ r.totalScore.toRat) && r.scores.all (onGrid r.scoreStep.toRat) &&
    r.deductions.all (fun d => decide (d.points.toRat ≤ r.totalScore.toRat)) &&
    r.dimensions.all fun d =>
      RubricDimension.bandsCover r.scoreStep.toRat d.maxScore.toRat none d.bands

theorem lengths_of_accepts {env : Runtime} {r : StructuredRubric} (h : r.accepts env = true) :
    r.dimensions.length ≤ 100 ∧ r.deductions.length ≤ 100 := by
  simp only [accepts, lengthBetween, Bool.and_eq_true, decide_eq_true_iff] at h
  exact ⟨h.1.1.1.1.1.1.1.1.1.1.1.1.2.2, h.1.1.1.1.1.1.1.1.1.1.2.2⟩

theorem points_mem {r : StructuredRubric} {d : RubricDeduction} (h : d ∈ r.deductions) :
    d.points ∈ r.decimals :=
  List.mem_cons_of_mem _ (List.mem_cons_of_mem _ (List.mem_append_right _ (List.mem_map_of_mem h)))

theorem fits_of_accepts {env : Runtime} {r : StructuredRubric} (h : r.accepts env = true) :
    ∀ d ∈ r.decimals, d.fits 10 4 = true := by
  unfold accepts at h
  simp only [Bool.and_eq_true] at h
  obtain ⟨⟨⟨⟨⟨⟨⟨⟨⟨⟨⟨⟨⟨⟨⟨⟨-, htotal⟩, -⟩, hstep⟩, -⟩, hdims⟩, -⟩, hdeds⟩, -⟩, -⟩, -⟩, -⟩, -⟩, -⟩, -⟩, -⟩, -⟩ := h
  rw [List.all_eq_true] at hdims hdeds
  unfold decimals
  refine List.forall_mem_cons.2 ⟨htotal, List.forall_mem_cons.2 ⟨hstep, fun x hx => ?_⟩⟩
  rcases List.mem_append.1 hx with hx | hx
  · obtain ⟨d, hd, hx⟩ := List.mem_flatMap.1 hx
    have hdim := hdims d hd
    unfold RubricDimension.accepts at hdim
    simp only [Bool.and_eq_true, List.all_eq_true] at hdim
    obtain ⟨⟨⟨⟨⟨-, hmax⟩, -⟩, hbands⟩, -⟩, -⟩ := hdim
    rcases List.mem_cons.1 hx with rfl | hx
    · exact hmax
    · obtain ⟨b, hb, hx⟩ := List.mem_flatMap.1 hx
      have hband := hbands b hb
      unfold RubricBand.accepts at hband
      simp only [Bool.and_eq_true] at hband
      obtain ⟨⟨⟨⟨-, hlow⟩, -⟩, hhigh⟩, -⟩ := hband
      rcases List.mem_cons.1 hx with rfl | hx
      · exact hlow
      · rw [List.mem_singleton.1 hx]
        exact hhigh
  · obtain ⟨d, hd, rfl⟩ := List.mem_map.1 hx
    have hded := hdeds d hd
    unfold RubricDeduction.accepts at hded
    simp only [Bool.and_eq_true] at hded
    exact hded.2

/-- The value hashed and sent: `model_dump` with its decimals in canonical form. -/
def toJs (r : StructuredRubric) : Js :=
  .obj [("schema_version", .int 1), ("total_score", .str r.totalScore.canonical),
    ("score_step", .str r.scoreStep.canonical),
    ("dimensions", .arr (r.dimensions.map RubricDimension.toJs)),
    ("deductions", .arr (r.deductions.map RubricDeduction.toJs))]

end StructuredRubric

/-- A rubric that passed `StructuredRubric.model_validate`. -/
structure ValidRubric (env : Runtime) where
  rubric : StructuredRubric
  accepted : rubric.accepts env = true

namespace ValidRubric

variable {env : Runtime} (r : ValidRubric env)

/-- The rubric has every id once. -/
theorem nodup : (r.rubric.dimensions.map (·.id)).Nodup ∧ (r.rubric.deductions.map (·.id)).Nodup := by
  have haccepts := r.accepted
  simp only [StructuredRubric.accepts, Bool.and_eq_true, decide_eq_true_iff] at haccepts
  exact ⟨haccepts.1.1.1.1.1.1.1.1.2, haccepts.1.1.1.1.1.1.2⟩

theorem contractIds : (∀ d ∈ r.rubric.dimensions, isContractId d.id = true) ∧
    ∀ d ∈ r.rubric.deductions, isContractId d.id = true := by
  have haccepts := r.accepted
  simp only [StructuredRubric.accepts, Bool.and_eq_true, List.all_eq_true] at haccepts
  refine ⟨fun d hd => ?_, fun d hd => ?_⟩
  · have := haccepts.1.1.1.1.1.1.1.1.1.1.1.2 d hd
    simp only [RubricDimension.accepts, Bool.and_eq_true] at this
    exact this.1.1.1.1.1.1.1.1
  · have := haccepts.1.1.1.1.1.1.1.1.1.2 d hd
    simp only [RubricDeduction.accepts, Bool.and_eq_true] at this
    exact this.1.1.1.1

end ValidRubric

end PaperGrading
