import SovereignCapital.Lib.OrderStatistics
import SovereignCapital.Lib.PyTree

/-! # The gas price that providers agree on

`select_consensus_gas_price`: of the well-formed observations those near the highest block are
fresh; the prices near the median of the fresh ones agree, and their median is the price. A quotient
of prices is one of doubles, and nothing is returned where an integer is too large for a double.
-/

namespace SovereignCapital.Gas

open OrderStatistics

/-! ## Observations -/

/-- A well-formed observation with the integers it is read as. -/
structure Observation where
  raw : PyMap
  gasPriceWei : ℤ
  blockNumber : ℤ

inductive Anomaly where
  | unreadable (raw : PyMap)
  | invalidObservation (raw : PyMap)
  | staleBlock (item : Observation)
  | gasPriceOutlier (item : Observation) (ratioToConsensus : ℚ)

abbrev Reading := Anomaly ⊕ Observation

/-- One observation; that an infinity is no integer is not caught. -/
def readObservation (raw : PyMap) : Option Reading :=
  match ((PyMap.get raw "gas_price_wei").orElse (.leaf (.int 0))).int with
  | .error .overflow => none
  | .error _ => some (.inl (.unreadable raw))
  | .ok price =>
    match (PyMap.get raw "block_number").int with
    | .error .overflow => none
    | .error _ => some (.inl (.unreadable raw))
    | .ok block =>
      if price ≤ 0 ∨ block < 0 then some (.inl (.invalidObservation raw))
      else some (.inr ⟨raw, price, block⟩)

def validOf (readings : List Reading) : List Observation := readings.filterMap Sum.getRight?

def maxBlock (valid : List Observation) : ℤ := (valid.map Observation.blockNumber).foldr max 0

def isFresh (highest maxBlockLag : ℤ) (item : Observation) : Bool :=
  decide (highest - item.blockNumber ≤ max 0 maxBlockLag)

def freshOf (valid : List Observation) (maxBlockLag : ℤ) : List Observation :=
  valid.filter (isFresh (maxBlock valid) maxBlockLag)

/-! ## Agreement -/

def sortedPrices (items : List Observation) : List ℤ := ranked (items.map Observation.gasPriceWei)

/-- `median`: of two in the middle their mean, rounded down. -/
def medianOf (prices : List ℤ) : ℤ :=
  if prices.length % 2 = 1 then prices.getD (prices.length / 2) 0
  else (prices.getD (prices.length / 2 - 1) 0 + prices.getD (prices.length / 2) 0) / 2

/-- `n / float(d)`. -/
def quotient (n d : ℤ) : Option ℚ := do
  let divisor ← Double.ofInt d
  let dividend ← Double.ofInt n
  return Double.nearest (dividend / divisor)

def close (median : ℤ) (agreementRatio : ℚ) (price : ℤ) : Option Bool :=
  (quotient |price - median| median).map fun q => decide (q ≤ max 0 agreementRatio)

def ratioToConsensus (consensus price : ℤ) : Option ℚ :=
  quotient (max price consensus) (max 1 (min price consensus))

structure Consensus where
  gasPriceWei : Option ℤ
  observations : List Observation
  inliers : List Observation
  anomalies : List Anomaly

/-- `insufficient_agreement`. -/
def insufficient (observations : List Observation) (anomalies : List Anomaly) : Consensus :=
  ⟨none, observations, [], anomalies⟩

/-- The inliers and the others; an item that equals an inlier is one. -/
def splitInliers (median : ℤ) (agreementRatio : ℚ) (fresh : List Observation) :
    Option (List Observation × List Observation) := do
  let near ← fresh.mapM fun item =>
    (close median agreementRatio item.gasPriceWei).map fun b => (item, b)
  return ((near.filter fun p => p.2).map Prod.fst, (near.filter fun p => !p.2).map Prod.fst)

def consensusPrice (inliers : List Observation) : ℤ :=
  (sortedPrices inliers).getD (inliers.length / 2) 0

def agree (agreementRatio : ℚ) (fresh : List Observation) (anomalies : List Anomaly) :
    Option Consensus :=
  let median := medianOf (sortedPrices fresh)
  if median ≤ 0 then some (insufficient fresh anomalies)
  else do
    let (inliers, outliers) ← splitInliers median agreementRatio fresh
    if 2 ≤ inliers.length then
      let consensus := consensusPrice inliers
      let rejected ← outliers.mapM fun item =>
        (ratioToConsensus consensus item.gasPriceWei).map (Anomaly.gasPriceOutlier item)
      return ⟨some consensus, fresh, inliers, anomalies ++ rejected⟩
    else return insufficient fresh anomalies

/-- `select_consensus_gas_price`; nothing where it raises `OverflowError`. -/
def selectConsensusGasPrice (observations : List PyMap) (maxBlockLag : ℤ) (agreementRatio : ℚ) :
    Option Consensus := do
  let readings ← observations.mapM readObservation
  let rejected := readings.filterMap Sum.getLeft?
  let valid := validOf readings
  if valid = [] then return insufficient [] rejected
  else
    let fresh := freshOf valid maxBlockLag
    let stale := valid.filter fun item => !isFresh (maxBlock valid) maxBlockLag item
    let anomalies := rejected ++ stale.map .staleBlock
    if fresh.length < 2 then return insufficient fresh anomalies
    else agree agreementRatio fresh anomalies

end SovereignCapital.Gas
