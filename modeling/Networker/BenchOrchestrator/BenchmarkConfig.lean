/-
The configuration of a benchmark suite and its matrix (`benchmarks/orchestrator/src/config.rs`).

* `LanguageEntry`, `BenchmarkConfig`, `TestCase`: the languages and the levels to run, and one
  cell of their matrix;
* `MatrixRng`: the generator behind the order of the cases, one multiplication and one addition
  a step;
* `shuffleCases`, `testMatrix`, `testMatrixWithSeed`: the matrix, in the order of a seed if there
  is one.
-/
import Networker.Data.FisherYates

namespace Networker

open Data

namespace BenchOrchestrator

/-- `LanguageEntry`. -/
structure LanguageEntry where
  name : String
  runtime : String
  path : String
  buildCmd : String
  runCmd : String
  port : UInt16
  dockerImage : Option String
  deriving DecidableEq

/-- `BenchmarkConfig`, as far as the matrix and the record of a run depend on it. -/
structure BenchmarkConfig where
  baselineLanguage : Option String := none
  baselineRuntime : Option String := none
  concurrencyLevels : List ℕ
  «repeat» : ℕ
  languages : List LanguageEntry

/-- `TestCase`. -/
structure TestCase where
  language : LanguageEntry
  concurrency : ℕ
  repeatIndex : ℕ
  deriving DecidableEq

/-- `MatrixRng`. -/
structure MatrixRng where
  state : UInt64

namespace MatrixRng

def new (seed : UInt64) : MatrixRng := ⟨if seed = 0 then 0x9e3779b97f4a7c15 else seed⟩

/-- `next_u64`, which returns the new state. -/
def nextU64 (rng : MatrixRng) : UInt64 × MatrixRng :=
  let state := rng.state * 6364136223846793005 + 1442695040888963407
  (state, ⟨state⟩)

end MatrixRng

/-- The loop of `shuffle_cases`, from a place down to the second one. -/
def shuffleLoop : ℕ → MatrixRng → List TestCase → List TestCase
  | 0, _, cases => cases
  | idx + 1, rng, cases =>
      let (value, rng) := rng.nextU64
      shuffleLoop idx rng (swapAt cases (idx + 1) (value.toNat % (idx + 2)))

/-- `shuffle_cases`. -/
def shuffleCases (cases : List TestCase) (seed : UInt64) : List TestCase :=
  if cases.length < 2 then cases
  else
    shuffleLoop (cases.length - 1) (MatrixRng.new (seed ^^^ UInt64.ofNat cases.length)) cases

/-- The cases of the matrix, in the order of the configuration. -/
def BenchmarkConfig.cases (cfg : BenchmarkConfig) : List TestCase :=
  cfg.languages.flatMap fun lang => cfg.concurrencyLevels.flatMap fun conc =>
    (List.range cfg.repeat).map fun rep =>
      { language := lang, concurrency := conc, repeatIndex := rep }

/-- `test_matrix_with_seed`. -/
def BenchmarkConfig.testMatrixWithSeed (cfg : BenchmarkConfig) : Option UInt64 → List TestCase
  | none => cfg.cases
  | some seed => shuffleCases cfg.cases seed

/-- `test_matrix`. -/
def BenchmarkConfig.testMatrix (cfg : BenchmarkConfig) : List TestCase :=
  cfg.testMatrixWithSeed none

end BenchOrchestrator

end Networker
