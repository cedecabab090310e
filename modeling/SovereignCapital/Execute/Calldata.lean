import SovereignCapital.Lib.Double
import SovereignCapital.Lib.Guarded
import SovereignCapital.Lib.PyValue
import SovereignCapital.Abi.Ethabi

/-! # Opportunities and decisions

The route of an opportunity with its minimum outputs, the decision on it, and the two changes
of a route before it is executed: a new quote of all legs for another amount
(`requote_opportunity`) and an execution route plan (`apply_execution_route_plan`). Both leave
the list of minimum outputs and the legs in agreement.
-/

namespace SovereignCapital.Execute

open Bytes Double Guarded

/-! ## Data -/

/-- How a run ends without a submission: with a result, or with an exception. -/
inductive Halt where
  | stopped (reason : String)
  | raised
deriving DecidableEq

structure RouteLeg where
  dex : String
  venue : String
  tokenIn : String
  tokenOut : String
  amountIn : String
  minOut : String
  data : String
deriving DecidableEq

structure PlanRow where
  index : Int
  /-- `_clip(viability * mutation_factor * (1 - distortion * 0.10), 0.45, 1.0)` -/
  factor : ℚ
  /-- the first fallback venue of a row whose action is a substitution -/
  fallbackVenue : Option String
deriving DecidableEq

structure RoutePlan where
  executable : Bool
  rows : List PlanRow
deriving DecidableEq

/-- `size_mult` and `borrow_mult`; nothing where `float` raises. -/
structure Multipliers where
  size : Option ℚ
  borrow : Option ℚ

structure Opportunity where
  legs : List RouteLeg
  minOuts : List String
  routeId : String
  /-- the multipliers of `meta["brain"]` -/
  brain : Multipliers
  /-- the plan `meta` has as applied -/
  appliedPlan : Option RoutePlan

structure Decision where
  multipliers : Multipliers
  gasMode : String
  sendMode : String
  /-- its attributes can be assigned -/
  settable : Bool
  routePlan : Option RoutePlan
  providerHint : String

/-- `str(n)`. -/
def decimalText (n : Int) : String := String.ofList (pyDecimal n)

/-- `int(s)`; nothing where it raises. -/
def readDecimal (s : String) : Option Int := pyInt 10 s.toList

/-- `int(s or "0")`. -/
def readAmount (s : String) : Option Int := readDecimal (if s = "" then "0" else s)

@[simp] theorem readDecimal_decimalText (n : Int) : readDecimal (decimalText n) = some n := by
  rw [readDecimal, decimalText, String.toList_ofList, pyInt_pyDecimal]

/-! ## A new quote -/

/-- A quote of one leg for an amount: the output and the minimum output after slippage. -/
abbrev QuoteLeg := RouteLeg → Int → Except Halt (Option (Int × Int))

/-- The legs with the amounts and minimum outputs of the new quote, and the last output. -/
def requoteLegs (quote : QuoteLeg) : List RouteLeg → Int → Except Halt (Option (List RouteLeg × Int))
  | [], amount => .ok (some ([], amount))
  | leg :: legs, amount => do
    match ← quote leg amount with
    | none => .ok none
    | some (out, minOut) =>
      match ← requoteLegs quote legs out with
      | none => .ok none
      | some (legs, last) =>
        .ok (some ({ leg with
          amountIn := decimalText amount
          minOut := decimalText minOut } :: legs, last))

/-- `requote_opportunity`; no opportunity where it returns none. -/
def requoteOpportunity (quote : QuoteLeg) (opp : Opportunity) (newAmountIn : Int) :
    Except Halt (Option Opportunity) :=
  if newAmountIn ≤ 0 ∨ opp.legs = [] then .ok none
  else do
    match ← requoteLegs quote opp.legs newAmountIn with
    | none => .ok none
    | some (legs, last) =>
      if last ≤ 0 then .ok none
      else .ok (some { opp with legs := legs, minOuts := legs.map RouteLeg.minOut })

/-! ## A route plan -/

/-- The minimum output of a leg scaled by the factor of its row. -/
def adjustedMinOut (minOut : Int) (factor : ℚ) : Int :=
  if 0 < minOut then max 1 (Decimal.roundHalfEven (mul (nearest minOut) factor)) else minOut

def PlanRow.adjust (row : PlanRow) (leg : RouteLeg) : RouteLeg :=
  { leg with
    minOut := decimalText (adjustedMinOut ((readAmount leg.minOut).getD 0) row.factor)
    venue := row.fallbackVenue.getD leg.venue }

/-- The legs after a row; an index counts from the end when it is negative. -/
def PlanRow.apply (legs : List RouteLeg) (row : PlanRow) : List RouteLeg :=
  let i := if row.index < 0 then row.index + legs.length else row.index
  if i < 0 then legs else legs.modify i.toNat row.adjust

def applyExecutionRoutePlan (opp : Opportunity) (plan : RoutePlan) : Opportunity :=
  let legs := plan.rows.foldl PlanRow.apply opp.legs
  { opp with
    legs := legs
    minOuts := legs.map fun leg => if leg.minOut = "" then "0" else leg.minOut
    appliedPlan := some plan }

def planToApply (decision : Option Decision) (opp : Opportunity) : Option RoutePlan :=
  match decision.bind Decision.routePlan with
  | none => none
  | some plan => if opp.appliedPlan = some plan then none else some plan

def applyDecisionPlan (decision : Option Decision) (opp : Opportunity) :
    Except Halt Opportunity :=
  match planToApply decision opp with
  | none => .ok opp
  | some plan => do
    ensure (plan.executable = true) (.stopped "route_plan_not_executable")
    .ok (applyExecutionRoutePlan opp plan)

/-! ## Minimum outputs -/

/-- `int(str(opp.min_outs[-1]))`, zero where it raises. -/
def amountOut (opp : Opportunity) : Int := (opp.minOuts.getLast?.bind readDecimal).getD 0

/-- The minimum output the last leg is executed with. -/
def lastMinOut (opp : Opportunity) : Option Int :=
  opp.legs.getLast?.bind fun leg => readDecimal leg.minOut

/-- The list of minimum outputs and the last leg agree. -/
def Agrees (opp : Opportunity) : Prop := ∀ n, lastMinOut opp = some n → amountOut opp = n

/-- A list of minimum outputs that is read off the legs. -/
theorem agrees_of_map {opp : Opportunity} {f : RouteLeg → String}
    (hmap : opp.minOuts = opp.legs.map f)
    (hread : ∀ leg n, readDecimal leg.minOut = some n → readDecimal (f leg) = some n) :
    Agrees opp := by
  intro n hn
  obtain ⟨leg, hleg, hminOut⟩ := Option.bind_eq_some_iff.1 hn
  rw [amountOut, hmap, List.getLast?_map, hleg, Option.map_some, Option.bind_some,
    hread leg n hminOut, Option.getD_some]

theorem requoteOpportunity_eq_ok {quote : QuoteLeg} {opp opp' : Opportunity} {amount : Int}
    (h : requoteOpportunity quote opp amount = .ok (some opp')) :
    ∃ legs, opp' = { opp with legs := legs, minOuts := legs.map RouteLeg.minOut } := by
  unfold requoteOpportunity at h
  split at h
  · cases h
  · obtain ⟨quoted, -, h⟩ := bind_ok_iff.1 h
    split at h
    · cases h
    · rename_i legs last
      split at h
      · cases h
      · cases h
        exact ⟨legs, rfl⟩

theorem requoteOpportunity_agrees {quote : QuoteLeg} {opp opp' : Opportunity} {amount : Int}
    (h : requoteOpportunity quote opp amount = .ok (some opp')) : Agrees opp' := by
  obtain ⟨legs, rfl⟩ := requoteOpportunity_eq_ok h
  exact agrees_of_map rfl fun _ _ hread => hread

theorem applyExecutionRoutePlan_agrees (opp : Opportunity) (plan : RoutePlan) :
    Agrees (applyExecutionRoutePlan opp plan) := by
  apply agrees_of_map rfl
  intro leg n hread
  have hempty : leg.minOut ≠ "" := by
    intro h
    rw [h] at hread
    cases hread
  rw [if_neg hempty]
  exact hread

end SovereignCapital.Execute

/-! # Calldata of an execution

`calldata_builder.py`: the call of the executor's `execute` with its legs, and the identifier of
the route (`route_encoding.py`). The arguments are kept as a structure, `ExecuteCall.bytes` is
the byte string that is sent. The amount and the minimum outputs are read back from it.
-/

namespace SovereignCapital.Execute

open Bytes Abi

/-! ## The call -/

structure LegTuple where
  dex : Nat
  venue : List Byte
  tokenIn : List Byte
  tokenOut : List Byte
  minOut : Word
  aux : List Byte

/-- The arguments of `execute`, addresses and `bytes32` as their words. -/
structure ExecuteCall where
  provider : Nat
  borrowToken : List Byte
  amountBorrow : Word
  minProfit : Word
  profitTo : List Byte
  deadline : Word
  routeId : List Byte
  legs : List LegTuple

def executeSig : Text :=
  ("execute(uint8,address,uint256,uint256,address,uint256,bytes32,"
    ++ "(uint8,address,address,address,uint256,bytes32)[])").toList

def LegTuple.words (leg : LegTuple) : List (List Byte) :=
  [beBytes 32 leg.dex, leg.venue, leg.tokenIn, leg.tokenOut, wordBytes leg.minOut, leg.aux]

def ExecuteCall.words (call : ExecuteCall) : List (List Byte) :=
  [beBytes 32 call.provider, call.borrowToken, wordBytes call.amountBorrow,
    wordBytes call.minProfit, call.profitTo, wordBytes call.deadline, call.routeId,
    beBytes 32 (8 * 32), beBytes 32 call.legs.length] ++ call.legs.flatMap LegTuple.words

/-! ## The builder -/

/-- The value of an `enc_uint` that does not raise. -/
def toWord (n : Int) : Option Word :=
  if h : 0 ≤ n ∧ n < 2 ^ 256 then some ⟨n.toNat, by omega⟩ else none

def providerId (provider : String) : Option Nat :=
  let normalized := String.ofList (pyLower (pyStrip provider.toList))
  if normalized = "aave" then some 1
  else if normalized = "balancer" then some 2
  else none

def dexId (dex : String) : Option Nat :=
  match dex with
  | "univ3" => some 1
  | "curve" => some 2
  | "balancer" => some 3
  | "aerodrome" => some 4
  | "slipstream" => some 5
  | "camelot_algebra" => some 6
  | "camelot_v2" => some 7
  | "constant_product" => some 8
  | _ => none

/-- `_b32_from_hex`: the last 32 bytes, zeros in front of fewer. -/
def b32FromHex (aux : Text) : Option (List Byte) :=
  (fromHex ((strip0x aux).getD aux)).map fun raw =>
    if 32 < raw.length then raw.drop (raw.length - 32) else zpad32 raw

def addr20 (addr : Text) : Option (List Byte) :=
  let a := pyLower addr
  fromHex (pyRjust 40 '0' ((strip0x a).getD a))

def RouteLeg.aux (leg : RouteLeg) : Text := if leg.data = "" then "0x".toList else leg.data.toList

def encodeRouteLeg (leg : RouteLeg) : Option (List Byte) := do
  let dex ← dexId leg.dex
  let venue ← addr20 leg.venue.toList
  let tokenIn ← addr20 leg.tokenIn.toList
  let tokenOut ← addr20 leg.tokenOut.toList
  let aux ← b32FromHex (pyLower leg.aux)
  return Fin.ofNat 256 dex :: (venue ++ tokenIn ++ tokenOut ++ aux)

/-- `route_id_hex`, as bytes. -/
def routeIdBytes (legs : List RouteLeg) : Option (List Byte) := do
  let encoded ← legs.mapM encodeRouteLeg
  if 255 < legs.length then none
  else return keccak256 (1 :: Fin.ofNat 256 legs.length :: encoded.flatten)

/-- `_encode_leg_tuple` of a leg, its minimum output read by `int`. -/
def encodeLegTuple (leg : RouteLeg) : Option LegTuple := do
  let minOut ← readDecimal leg.minOut
  let dex ← dexId leg.dex
  let venue ← encAddress leg.venue.toList
  let tokenIn ← encAddress leg.tokenIn.toList
  let tokenOut ← encAddress leg.tokenOut.toList
  let minOut ← toWord minOut
  let aux ← b32FromHex leg.aux
  return { dex, venue, tokenIn, tokenOut, minOut, aux }

/-- `build_execute_calldata`; nothing where it raises. -/
def buildExecuteCalldata (provider borrowToken : String) (amountBorrow minProfit : Int)
    (profitTo : String) (deadline : Int) (legs : List RouteLeg) : Option ExecuteCall := do
  let provider ← providerId provider
  let routeId ← routeIdBytes legs
  let legs ← legs.mapM encodeLegTuple
  let borrowToken ← encAddress borrowToken.toList
  let amountBorrow ← toWord amountBorrow
  let minProfit ← toWord minProfit
  let profitTo ← encAddress profitTo.toList
  let deadline ← toWord deadline
  return { provider, borrowToken, amountBorrow, minProfit, profitTo, deadline, routeId, legs }

theorem toWord_eq_some {n : Int} {w : Word} (h : toWord n = some w) : (w.val : Int) = n := by
  unfold toWord at h
  split at h
  · rename_i hn
    cases h
    exact Int.toNat_of_nonneg hn.1
  · cases h

theorem encodeLegTuple_minOut {leg : RouteLeg} {tuple : LegTuple}
    (h : encodeLegTuple leg = some tuple) : readDecimal leg.minOut = some (tuple.minOut.val : Int) := by
  simp only [encodeLegTuple, Option.bind_eq_bind, Option.bind_eq_some_iff, Option.pure_def,
    Option.some.injEq] at h
  obtain ⟨minOut, hread, _, -, _, -, _, -, _, -, word, hword, _, -, rfl⟩ := h
  rw [hread, toWord_eq_some hword]

theorem forall₂_of_mapM {α β : Type} {f : α → Option β} {l : List α} {r : List β}
    (h : l.mapM f = some r) : List.Forall₂ (fun a b => f a = some b) l r := by
  induction l generalizing r with
  | nil =>
    simp only [List.mapM_nil, Option.pure_def, Option.some.injEq] at h
    rw [← h]
    exact .nil
  | cons a l ih =>
    simp only [List.mapM_cons, Option.bind_eq_bind, Option.bind_eq_some_iff, Option.pure_def,
      Option.some.injEq] at h
    obtain ⟨b, hb, bs, hbs, rfl⟩ := h
    exact .cons hb (ih hbs)

/-- The last result of fallible calls on a list is that of the last element. -/
theorem getLast?_of_mapM {α β : Type} {f : α → Option β} {l : List α} {r : List β}
    (h : l.mapM f = some r) :
    (l.getLast? = none ∧ r.getLast? = none)
      ∨ ∃ a b, l.getLast? = some a ∧ r.getLast? = some b ∧ f a = some b := by
  have hreverse := List.forall₂_reverse_iff.2 (forall₂_of_mapM h)
  rw [← List.head?_reverse, ← List.head?_reverse]
  generalize l.reverse = l', r.reverse = r' at hreverse
  cases hreverse with
  | nil => exact .inl ⟨rfl, rfl⟩
  | cons hab _ => exact .inr ⟨_, _, rfl, rfl, hab⟩

/-- The minimum output of the last leg. -/
def ExecuteCall.lastMinOut (call : ExecuteCall) : Option Int :=
  call.legs.getLast?.map fun leg => (leg.minOut.val : Int)

/-- **What is encoded**: the amount, and the minimum output of the last leg, where there is one. -/
theorem buildExecuteCalldata_spec {provider borrowToken profitTo : String}
    {amountBorrow minProfit deadline : Int} {legs : List RouteLeg} {call : ExecuteCall}
    (h : buildExecuteCalldata provider borrowToken amountBorrow minProfit profitTo deadline legs
      = some call) :
    (call.amountBorrow.val : Int) = amountBorrow
      ∧ (call.lastMinOut = legs.getLast?.bind fun leg => readDecimal leg.minOut)
      ∧ (legs ≠ [] → call.lastMinOut.isSome) := by
  simp only [buildExecuteCalldata, Option.bind_eq_bind, Option.bind_eq_some_iff, Option.pure_def,
    Option.some.injEq] at h
  obtain ⟨_, -, _, -, tuples, htuples, _, -, amount, hamount, _, -, _, -, _, -, rfl⟩ := h
  refine ⟨toWord_eq_some hamount, ?_⟩
  show tuples.getLast?.map _ = _ ∧ (_ → (tuples.getLast?.map _).isSome)
  rcases getLast?_of_mapM htuples with ⟨hlegs, hlast⟩ | ⟨leg, tuple, hlegs, hlast, htuple⟩
  · rw [hlegs, hlast]
    exact ⟨rfl, fun hne => absurd (List.getLast?_eq_none_iff.1 hlegs) hne⟩
  · rw [hlegs, hlast, Option.map_some, Option.bind_some, encodeLegTuple_minOut htuple]
    exact ⟨rfl, fun _ => rfl⟩

end SovereignCapital.Execute
