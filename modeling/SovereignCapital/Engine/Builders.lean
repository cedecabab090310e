import SovereignCapital.Engine.Edge
import SovereignCapital.Execute.RouteEncoding

/-! # The opportunities of the two scanners

What `_consume_two_leg_quote_result` and the route loop of `find_three_leg_opportunities` make of
quoted edges. The two builders encode the data of a leg and cost its gas on their own.

* `builders_agree_iff` : on which edges the data agree, and at which price the costs.
* `builders_differ` : a constant-product edge and a price on which they do not.
-/

namespace SovereignCapital.Engine

open Bytes Execute

/-! ## Building -/

structure QuotedEdge where
  edge : Edge
  amountOut : Int
  quote : Meta

structure ScanContext where
  gas : GasConfig
  slippageBps : Int
  observedGasPriceWei : Option Int
  /-- `VICTOR_DEBUG_OPPS` lists routes without profit as well -/
  debug : Bool

structure Opportunity where
  expectedProfitRaw : String
  legs : List RouteLeg
  minOuts : List String
  /-- the encoded route, whose hash is the route's identifier -/
  routeBytes : List Byte
  /-- `meta["out1"]`, `meta["out2"]`, … -/
  outs : List String
  /-- `meta["leg1"]`, `meta["leg2"]`, … -/
  legQuotes : List Meta
  routeEdgeParams : List PyDict
  venues : List Dex
  gasEstimateUnits : String
  gasCostEstimateWei : String
  profitAfterGasEstimateWei : String

def applySlippage (amount slippageBps : Int) : Int := max 0 (amount * (10000 - slippageBps) / 10000)

def Edge.leg (edge : Edge) (amountIn minOut : Int) (data : String) : RouteLeg where
  dex := edge.dex.name
  venue := edge.venue
  tokenIn := edge.tokenIn
  tokenOut := edge.tokenOut
  amountIn := decimalText amountIn
  minOut := decimalText minOut
  data := data

/-- `_consume_two_leg_quote_result` of a route that is quoted: nothing where it raises, no
opportunity where it makes no profit. -/
def twoLegOpportunity (ctx : ScanContext) (amountIn : Int) (first second : QuotedEdge) :
    Option (Option Opportunity) := do
  let grossProfit := second.amountOut - amountIn
  let min1 := applySlippage first.amountOut ctx.slippageBps
  let min2 := applySlippage second.amountOut ctx.slippageBps
  let aux1 ← routeAuxForEdge first.edge first.quote
  let aux2 ← routeAuxForEdge second.edge second.quote
  let legs :=
    [first.edge.leg amountIn min1 aux1, second.edge.leg first.amountOut min2 aux2]
  let routeBytes ← encodeRoute legs
  if grossProfit ≤ 0 ∧ ctx.debug = false then return none
  let venues := [first.edge.dex, second.edge.dex]
  let gasUnits := estimateRouteGasUnits venues [first.quote, second.quote]
  let gasCost := estimateGasCostWeiFromCfg ctx.gas gasUnits ctx.observedGasPriceWei
  return some
    { expectedProfitRaw := decimalText grossProfit
      legs := legs
      minOuts := [decimalText min1, decimalText min2]
      routeBytes := routeBytes
      outs := [decimalText first.amountOut, decimalText second.amountOut]
      legQuotes := [first.quote, second.quote]
      routeEdgeParams := [first.edge.params, second.edge.params]
      venues := venues
      gasEstimateUnits := decimalText gasUnits
      gasCostEstimateWei := decimalText gasCost
      profitAfterGasEstimateWei := decimalText (grossProfit - gasCost) }

/-- The route loop of `find_three_leg_opportunities` on a route that is quoted. The cost it records
is the one without an observed price. -/
def threeLegOpportunity (ctx : ScanContext) (amountIn : Int) (first second third : QuotedEdge) :
    Option (Option Opportunity) := do
  let grossProfit := third.amountOut - amountIn
  let min1 := applySlippage first.amountOut ctx.slippageBps
  let min2 := applySlippage second.amountOut ctx.slippageBps
  let min3 := applySlippage third.amountOut ctx.slippageBps
  let aux1 ← auxFor first.edge first.quote
  let aux2 ← auxFor second.edge second.quote
  let aux3 ← auxFor third.edge third.quote
  let legs :=
    [first.edge.leg amountIn min1 aux1, second.edge.leg first.amountOut min2 aux2,
      third.edge.leg second.amountOut min3 aux3]
  let routeBytes ← encodeRoute legs
  if grossProfit ≤ 0 ∧ ctx.debug = false then return none
  let venues := [first.edge.dex, second.edge.dex, third.edge.dex]
  let gasUnits := estimateRouteGasUnits venues [first.quote, second.quote, third.quote]
  let gasCost := estimateGasCostWeiFromCfg ctx.gas gasUnits none
  return some
    { expectedProfitRaw := decimalText grossProfit
      legs := legs
      minOuts := [decimalText min1, decimalText min2, decimalText min3]
      routeBytes := routeBytes
      outs :=
        [decimalText first.amountOut, decimalText second.amountOut, decimalText third.amountOut]
      legQuotes := [first.quote, second.quote, third.quote]
      routeEdgeParams := [first.edge.params, second.edge.params, third.edge.params]
      venues := venues
      gasEstimateUnits := decimalText gasUnits
      gasCostEstimateWei := decimalText gasCost
      profitAfterGasEstimateWei := decimalText (grossProfit - gasCost) }

/-! ## What a built opportunity is made of -/

theorem decimalText_injective {m n : Int} (h : decimalText m = decimalText n) : m = n := by
  have hread := congrArg readDecimal h
  rw [readDecimal_decimalText, readDecimal_decimalText] at hread
  exact Option.some.inj hread

structure BuiltTwo (ctx : ScanContext) (amountIn : Int) (first second : QuotedEdge)
    (opp : Opportunity) (aux1 aux2 : String) : Prop where
  data1 : routeAuxForEdge first.edge first.quote = some aux1
  data2 : routeAuxForEdge second.edge second.quote = some aux2
  profit : opp.expectedProfitRaw = decimalText (second.amountOut - amountIn)
  positive : ctx.debug = false → 0 < second.amountOut - amountIn
  legs : opp.legs =
    [first.edge.leg amountIn (applySlippage first.amountOut ctx.slippageBps) aux1,
      second.edge.leg first.amountOut (applySlippage second.amountOut ctx.slippageBps) aux2]
  minOuts : opp.minOuts = opp.legs.map RouteLeg.minOut
  params : opp.routeEdgeParams = [first.edge.params, second.edge.params]
  units : opp.gasEstimateUnits = decimalText (estimateRouteGasUnits
    [first.edge.dex, second.edge.dex] [first.quote, second.quote])
  cost : opp.gasCostEstimateWei = decimalText (estimateGasCostWeiFromCfg ctx.gas
    (estimateRouteGasUnits [first.edge.dex, second.edge.dex] [first.quote, second.quote])
    ctx.observedGasPriceWei)

variable {ctx : ScanContext} {amountIn : Int} {first second : QuotedEdge} {opp : Opportunity}

theorem twoLegOpportunity_built
    (h : twoLegOpportunity ctx amountIn first second = some (some opp)) :
    ∃ aux1 aux2, BuiltTwo ctx amountIn first second opp aux1 aux2 := by
  unfold twoLegOpportunity at h
  obtain ⟨aux1, haux1, h⟩ := Option.bind_eq_some_iff.1 h
  obtain ⟨aux2, haux2, h⟩ := Option.bind_eq_some_iff.1 h
  obtain ⟨routeBytes, -, h⟩ := Option.bind_eq_some_iff.1 h
  split at h
  · cases h
  · rename_i hprofit
    cases h
    exact ⟨aux1, aux2, haux1, haux2, rfl,
      fun hdebug => not_le.1 fun hle => hprofit ⟨hle, hdebug⟩, rfl, rfl, rfl, rfl, rfl⟩

structure BuiltThree (ctx : ScanContext) (amountIn : Int) (first second third : QuotedEdge)
    (opp : Opportunity) (aux1 aux2 aux3 : String) : Prop where
  data1 : auxFor first.edge first.quote = some aux1
  data2 : auxFor second.edge second.quote = some aux2
  data3 : auxFor third.edge third.quote = some aux3
  profit : opp.expectedProfitRaw = decimalText (third.amountOut - amountIn)
  positive : ctx.debug = false → 0 < third.amountOut - amountIn
  legs : opp.legs =
    [first.edge.leg amountIn (applySlippage first.amountOut ctx.slippageBps) aux1,
      second.edge.leg first.amountOut (applySlippage second.amountOut ctx.slippageBps) aux2,
      third.edge.leg second.amountOut (applySlippage third.amountOut ctx.slippageBps) aux3]
  minOuts : opp.minOuts = opp.legs.map RouteLeg.minOut
  params : opp.routeEdgeParams = [first.edge.params, second.edge.params, third.edge.params]
  units : opp.gasEstimateUnits = decimalText (estimateRouteGasUnits
    [first.edge.dex, second.edge.dex, third.edge.dex] [first.quote, second.quote, third.quote])
  cost : opp.gasCostEstimateWei = decimalText (estimateGasCostWeiFromCfg ctx.gas
    (estimateRouteGasUnits [first.edge.dex, second.edge.dex, third.edge.dex]
      [first.quote, second.quote, third.quote]) none)

theorem threeLegOpportunity_built {third : QuotedEdge}
    (h : threeLegOpportunity ctx amountIn first second third = some (some opp)) :
    ∃ aux1 aux2 aux3, BuiltThree ctx amountIn first second third opp aux1 aux2 aux3 := by
  unfold threeLegOpportunity at h
  obtain ⟨aux1, haux1, h⟩ := Option.bind_eq_some_iff.1 h
  obtain ⟨aux2, haux2, h⟩ := Option.bind_eq_some_iff.1 h
  obtain ⟨aux3, haux3, h⟩ := Option.bind_eq_some_iff.1 h
  obtain ⟨routeBytes, -, h⟩ := Option.bind_eq_some_iff.1 h
  split at h
  · cases h
  · rename_i hprofit
    cases h
    exact ⟨aux1, aux2, aux3, haux1, haux2, haux3, rfl,
      fun hdebug => not_le.1 fun hle => hprofit ⟨hle, hdebug⟩, rfl, rfl, rfl, rfl, rfl⟩

/-! ## The data of a leg -/

theorem auxU256_injective {m n : Int} (h : auxU256ToB32Hex m = auxU256ToB32Hex n) :
    m % 2 ^ 256 = n % 2 ^ 256 := by
  have hlist := String.ofList_injective h
  have hbytes := toHex_injective (with0x_injective hlist)
  have hm : (m % 2 ^ 256).toNat < 256 ^ 32 := by omega
  have hn : (n % 2 ^ 256).toNat < 256 ^ 32 := by omega
  have hnat : (m % 2 ^ 256).toNat = (n % 2 ^ 256).toNat := by
    rw [← beNat_beBytes_of_lt hm, ← beNat_beBytes_of_lt hn, hbytes]
  omega

theorem auxU256_ne (n : Int) : auxU256ToB32Hex n ≠ "0x" := by
  intro h
  have hlist : with0x (toHex (beBytes 32 (n % 2 ^ 256).toNat)) = with0x [] :=
    String.ofList_injective (h.trans rfl)
  have hbytes : beBytes 32 (n % 2 ^ 256).toNat = [] := toHex_injective (with0x_injective hlist)
  have hlength := congrArg List.length hbytes
  rw [length_beBytes] at hlength
  cases hlength

theorem factoryWord_ne (factory : String) (stable : Bool) :
    factoryWord factory stable ≠ some "0x" := by
  intro h
  obtain ⟨raw, -, hraw⟩ := Option.bind_eq_some_iff.1 h
  exact auxU256_ne _ (Option.some.inj hraw)

/-- The edges on which both builders encode the same data: the metadata of an Aerodrome leg name
the factory and the flag of the edge, those of a Slipstream leg its tick spacing, and the leg is
not on a V2 router. -/
def SameData (edge : Edge) (quote : Meta) : Prop :=
  match edge.dex with
  | .aerodrome =>
    factoryWord (quotedFactory edge quote) (quotedStable edge quote)
      = factoryWord (edgeFactory edge) (edge.params.getD "stable" (.bool false)).truthy
  | .slipstream =>
    (quotedTickSpacing edge quote).map (· % 2 ^ 24)
      = (edge.params.getD "tick_spacing" (.int 0)).int?.map (· % 2 ^ 24)
  | .camelotV2 | .constantProduct => False
  | .univ3 | .curve | .balancer | .camelotAlgebra => True

theorem sameData_iff (edge : Edge) (quote : Meta) :
    auxFor edge quote = routeAuxForEdge edge quote ↔ SameData edge quote := by
  unfold auxFor routeAuxForEdge SameData
  cases edge.dex with
  | univ3 => simp
  | curve => simp
  | balancer => simp
  | camelotAlgebra => simp
  | aerodrome => exact Iff.rfl
  | slipstream =>
    have hword : ∀ m n : Int, auxU256ToB32Hex (m % 2 ^ 24) = auxU256ToB32Hex (n % 2 ^ 24)
        ↔ m % 2 ^ 24 = n % 2 ^ 24 := by
      intro m n
      refine ⟨fun h => ?_, fun h => by rw [h]⟩
      have hmod := auxU256_injective h
      omega
    cases quotedTickSpacing edge quote with
    | none => cases (edge.params.getD "tick_spacing" (.int 0)).int? <;> simp
    | some m =>
      cases (edge.params.getD "tick_spacing" (.int 0)).int? with
      | none => simp
      | some n => simpa using hword m n
  | camelotV2 => exact iff_false_intro fun h => factoryWord_ne _ _ h.symm
  | constantProduct => exact iff_false_intro fun h => factoryWord_ne _ _ h.symm

/-- A flag above the twenty bytes of a factory is added to them. -/
theorem lor_flag {factory : Nat} (h : factory < 2 ^ 160) (stable : Bool) :
    Int.lor factory (if stable then 2 ^ 160 else 0)
      = ((factory + (if stable then 2 ^ 160 else 0) : Nat) : Int) := by
  cases stable with
  | false =>
    have hnat : factory ||| 0 = factory + 0 := by simp
    exact congrArg Int.ofNat hnat
  | true =>
    have hnat : factory ||| 2 ^ 160 = factory + 2 ^ 160 := by
      rw [Nat.lor_comm, Nat.add_comm, ← Nat.one_shiftLeft, Nat.shiftLeft_add_eq_or_of_lt h]
    have hpow : (2 ^ 160 : Int) = ((2 ^ 160 : Nat) : Int) := by norm_num
    simp only [if_true, hpow]
    exact congrArg Int.ofNat hnat

theorem factoryWord_of_lt {f : String} {a : Nat} (hf : pyInt 16 f.toList = some (a : Int))
    (ha : a < 2 ^ 160) (stable : Bool) : factoryWord f stable
      = some (auxU256ToB32Hex ((a + (if stable then 2 ^ 160 else 0) : Nat) : Int)) := by
  rw [factoryWord, hf]
  exact congrArg (fun n => some (auxU256ToB32Hex n)) (lor_flag ha stable)

/-- The word of a factory of twenty bytes names it and the flag. -/
theorem factoryWord_eq_iff {f f' : String} {a b : Nat} (hf : pyInt 16 f.toList = some (a : Int))
    (hf' : pyInt 16 f'.toList = some (b : Int)) (ha : a < 2 ^ 160) (hb : b < 2 ^ 160)
    (stable stable' : Bool) :
    factoryWord f stable = factoryWord f' stable' ↔ a = b ∧ stable = stable' := by
  rw [factoryWord_of_lt hf ha, factoryWord_of_lt hf' hb]
  constructor
  · intro h
    have hmod := auxU256_injective (Option.some.inj h)
    cases stable with
    | false =>
      cases stable' with
      | false =>
        simp only [Bool.false_eq_true, if_false] at hmod
        exact ⟨by omega, rfl⟩
      | true =>
        simp only [Bool.false_eq_true, if_false, if_true] at hmod
        omega
    | true =>
      cases stable' with
      | false =>
        simp only [Bool.false_eq_true, if_false, if_true] at hmod
        omega
      | true =>
        simp only [if_true] at hmod
        exact ⟨by omega, rfl⟩
  · rintro ⟨rfl, rfl⟩
    rfl

/-! ## The cost of the gas -/

/-- The three-leg builder costs gas at the configured maximum fee, so at the observed price only
where the two are the same. -/
theorem three_cost_iff {third : QuotedEdge} {aux1 aux2 aux3 : String}
    (h : BuiltThree ctx amountIn first second third opp aux1 aux2 aux3) (observed : Int) :
    opp.gasCostEstimateWei = decimalText (estimateRouteGasUnits
        [first.edge.dex, second.edge.dex, third.edge.dex] [first.quote, second.quote, third.quote]
        * observed)
      ↔ observed = gweiToWei ctx.gas.maxFeeGwei := by
  have hunits := estimateRouteGasUnits_pos [first.edge.dex, second.edge.dex, third.edge.dex]
    [first.quote, second.quote, third.quote]
  rw [h.cost]
  constructor
  · intro hcost
    have hmul := decimalText_injective hcost
    exact (mul_left_cancel₀ (ne_of_gt hunits) hmul).symm
  · intro hprice
    rw [hprice]
    rfl

/-- **When the builders agree.** On the data of a leg exactly on the edges of `SameData`, for an
Aerodrome factory of twenty bytes when factory and flag are the edge's; on the cost of gas at an
observed price exactly when that price is the configured maximum fee. The two-leg builder always
uses the observed price. -/
theorem builders_agree_iff (ctx : ScanContext) {observed : Int}
    (hobserved : ctx.observedGasPriceWei = some observed) (hpos : 0 < observed) :
    (∀ edge quote, auxFor edge quote = routeAuxForEdge edge quote ↔ SameData edge quote)
    ∧ (∀ (edge : Edge) quote (a b : Nat), edge.dex = .aerodrome →
        pyInt 16 (quotedFactory edge quote).toList = some (a : Int) →
        pyInt 16 (edgeFactory edge).toList = some (b : Int) → a < 2 ^ 160 → b < 2 ^ 160 →
        (SameData edge quote ↔ a = b
          ∧ quotedStable edge quote = (edge.params.getD "stable" (.bool false)).truthy))
    ∧ (∀ amountIn first second opp, twoLegOpportunity ctx amountIn first second = some (some opp) →
        ∃ units, opp.gasEstimateUnits = decimalText units
          ∧ opp.gasCostEstimateWei
            = decimalText (units * estimateGasCostWeiFromCfg ctx.gas 1 (some observed)))
    ∧ ∀ amountIn first second third opp,
        threeLegOpportunity ctx amountIn first second third = some (some opp) →
        ∃ units, opp.gasEstimateUnits = decimalText units
          ∧ (opp.gasCostEstimateWei
              = decimalText (units * estimateGasCostWeiFromCfg ctx.gas 1 (some observed))
            ↔ observed = gweiToWei ctx.gas.maxFeeGwei) := by
  have hunit : estimateGasCostWeiFromCfg ctx.gas 1 (some observed) = observed := by
    rw [estimateGasCost_observed _ _ hpos, one_mul]
  rw [hunit]
  refine ⟨sameData_iff, fun edge quote a b hdex ha hb hlt hlt' => ?_,
    fun amountIn first second opp h => ?_, fun amountIn first second third opp h => ?_⟩
  · have hsame : SameData edge quote ↔
        factoryWord (quotedFactory edge quote) (quotedStable edge quote)
          = factoryWord (edgeFactory edge) (edge.params.getD "stable" (.bool false)).truthy := by
      rw [SameData, hdex]
    rw [hsame, factoryWord_eq_iff ha hb hlt hlt']
  · obtain ⟨aux1, aux2, hbuilt⟩ := twoLegOpportunity_built h
    refine ⟨_, hbuilt.units, ?_⟩
    rw [hbuilt.cost, hobserved, estimateGasCost_observed _ _ hpos]
  · obtain ⟨aux1, aux2, aux3, hbuilt⟩ := threeLegOpportunity_built h
    exact ⟨_, hbuilt.units, three_cost_iff hbuilt observed⟩

/-- A constant-product edge, as `build_edges` makes it. -/
def sampleEdge (dex : Dex) : Edge where
  dex := dex
  venue := "0x00000000000000000000000000000000000000aa"
  tokenIn := "0x00000000000000000000000000000000000000bb"
  tokenOut := "0x00000000000000000000000000000000000000bb"
  params := PyDict.literal [("pool", .text ""),
    ("factory", .text "0x00000000000000000000000000000000000000ff"), ("venue_name", .text "v2")]

/-- The default fees, and an observed price of one gwei. -/
def sampleContext : ScanContext where
  gas := ⟨"standard", some ⟨25, 40, 60⟩⟩
  slippageBps := 50
  observedGasPriceWei := some 1000000000
  debug := false

theorem builders_agree_sample :
    auxFor (sampleEdge .univ3) Dict.empty = routeAuxForEdge (sampleEdge .univ3) Dict.empty :=
  ((builders_agree_iff sampleContext rfl (by decide)).1 (sampleEdge .univ3) Dict.empty).2 trivial

/-- On a V2 router the three-leg builder leaves the factory out, and it costs gas at 25 gwei where
the price is one. -/
theorem builders_differ :
    (¬∀ edge quote, auxFor edge quote = routeAuxForEdge edge quote)
      ∧ ¬∀ (ctx : ScanContext) (observed : Int), ctx.observedGasPriceWei = some observed →
          0 < observed → ∀ amountIn first second third opp,
            threeLegOpportunity ctx amountIn first second third = some (some opp) →
            opp.gasCostEstimateWei = decimalText (estimateRouteGasUnits
              [first.edge.dex, second.edge.dex, third.edge.dex]
              [first.quote, second.quote, third.quote] * observed) := by
  constructor
  · intro h
    exact (sameData_iff (sampleEdge .constantProduct) Dict.empty).1 (h _ _)
  · intro h
    let quoted : QuotedEdge := ⟨sampleEdge .camelotAlgebra, 200, Dict.empty⟩
    have hsome : ((threeLegOpportunity sampleContext 100 quoted quoted quoted).bind id).isSome
        = true := by decide +kernel
    obtain ⟨opp, hopp⟩ := Option.isSome_iff_exists.1 hsome
    obtain ⟨_, hbuild, rfl⟩ := Option.bind_eq_some_iff.1 hopp
    obtain ⟨aux1, aux2, aux3, hbuilt⟩ := threeLegOpportunity_built hbuild
    have hprice := (three_cost_iff hbuilt 1000000000).1
      (h sampleContext 1000000000 rfl (by decide) 100 quoted quoted quoted _ hbuild)
    revert hprice
    decide

end SovereignCapital.Engine
