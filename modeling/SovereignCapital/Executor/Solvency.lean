import SovereignCapital.Executor.UserData

/-! # Solvency of the callbacks

The profit check compares balances: what was there before the loan, as the callback finds it,
and the repayment must be there after the legs. Whatever the routers do, a callback that returns
has paid its profit and repaid its loan out of what the legs have brought. What it finds is the
balance before the loan when the provider has handed over the principal.
-/

namespace SovereignCapital.Executor

open Bytes Abi

variable {Ω : Type} {d : Deployment}

/-! ## A callback from its start to its end -/

/-- What a router does with a leg and an amount: anything to the world, and it returns amounts;
or it reverts. -/
abbrev Router (Ω : Type) := Leg → Nat → World Ω → Option (World Ω × List Nat)

def runLegs (d : Deployment) (router : Router Ω) : World Ω → List Leg → Nat → Option (World Ω)
  | w, [], _ => some w
  | w, leg :: legs, amountIn => do
    let (w, beforeOut) ← prepareLeg d w leg amountIn
    let (w, returned) ← router leg amountIn w
    let out ← legOut d leg beforeOut w returned
    runLegs d router w legs out

/-- `executeOperation` and `receiveFlashLoan`. -/
def runCallback (d : Deployment) (router : Router Ω) (w : World Ω) (sender : Address)
    (callback : Callback) (userData : List Byte) : Option (World Ω) := do
  let loan ← enter d w sender callback userData
  let w ← runLegs d router w loan.params.legs loan.params.amountBorrow.val
  settle d w loan

/-- The provider takes its repayment: the pool by its allowance, the vault has it already. -/
def takeRepayment (d : Deployment) (w : World Ω) (loan : Loan) : Option (World Ω) :=
  match loan.provider with
  | .aave => do
    guard (loan.repay ≤ w.allowance loan.token d.aavePool)
    let ledger ← Ledger.transfer w.ledger loan.token d.self d.aavePool loan.repay
    return { w with ledger := ledger }
  | .balancer => some w

/-! ## The settlement -/

variable {token : Address} {amountIn : Nat} {loan : Loan} {userData : List Byte}

theorem approveIfNeeded_spec {w w' : World Ω} {spender : Address} {amount : Nat}
    (h : approveIfNeeded w token spender amount = some w') (hamount : amount < 2 ^ 256) :
    w'.ledger = w.ledger ∧ amount ≤ w'.allowance token spender := by
  simp only [approveIfNeeded, Option.bind_eq_bind, Option.bind_eq_some_iff, Option.guard_eq_some',
    exists_const] at h
  obtain ⟨-, h⟩ := h
  split at h
  · cases h
    refine ⟨rfl, ?_⟩
    dsimp only
    rw [if_pos ⟨rfl, rfl⟩]
    omega
  · rename_i hlow
    cases h
    exact ⟨rfl, not_lt.1 hlow⟩

theorem prepareLeg_ledger {w w' : World Ω} {leg : Leg} {beforeOut : Nat}
    (h : prepareLeg d w leg amountIn = some (w', beforeOut)) :
    w'.ledger = w.ledger ∧ beforeOut = w.ledger leg.tokenOut d.self := by
  simp only [prepareLeg, approveIfNeeded, Option.bind_eq_bind, Option.bind_eq_some_iff,
    Option.guard_eq_some', exists_const, Option.pure_def, Option.some.injEq, Prod.mk.injEq] at h
  obtain ⟨callee, -, w'', ⟨-, happrove⟩, rfl, rfl⟩ := h
  split at happrove <;> cases happrove <;> exact ⟨rfl, rfl⟩

theorem providerAddress_ne (d : Deployment) (provider : Provider) :
    provider.address d ≠ d.self := by
  cases provider with
  | aave => exact d.aavePool_ne
  | balancer => exact d.balancerVault_ne

/-- What a loan leaves after its repayment, next to the world the legs left. -/
structure Settled (d : Deployment) (loan : Loan) (profit : Nat) (w paid : World Ω) : Prop where
  own : loan.preExisting ≤ paid.ledger loan.token d.self
  provider : w.ledger loan.token (loan.provider.address d) + loan.repay
    ≤ paid.ledger loan.token (loan.provider.address d)
  beneficiary : loan.params.profitTo ≠ d.self →
    w.ledger loan.token loan.params.profitTo + profit
      ≤ paid.ledger loan.token loan.params.profitTo
  others : ∀ t, t ≠ loan.token → ∀ a, paid.ledger t a = w.ledger t a

/-- Two transfers out of a balance that bears both: the repayment, and the profit. -/
theorem settled_of_transfers {profit : Nat} {w paid : World Ω}
    (hbal : w.ledger loan.token d.self = loan.preExisting + loan.repay + profit)
    {ledger : Ledger.Balances Address Address}
    (htransfers : (Ledger.transfer w.ledger loan.token d.self (loan.provider.address d) loan.repay
          = some ledger
        ∧ Ledger.transfer ledger loan.token d.self loan.params.profitTo profit = some paid.ledger)
      ∨ (Ledger.transfer w.ledger loan.token d.self loan.params.profitTo profit = some ledger
        ∧ Ledger.transfer ledger loan.token d.self (loan.provider.address d) loan.repay
          = some paid.ledger)) :
    Settled d loan profit w paid := by
  have hself : d.self ≠ loan.provider.address d := (providerAddress_ne d loan.provider).symm
  rcases htransfers with ⟨hrepay, hprofit⟩ | ⟨hprofit, hrepay⟩
  · constructor
    · have hsrc := Ledger.transfer_src hrepay hself
      have hleft := Ledger.le_transfer_add hprofit
      omega
    · rw [← Ledger.transfer_dst hrepay hself]
      exact Ledger.le_transfer hprofit _ hself.symm
    · intro hne
      rw [Ledger.transfer_dst hprofit hne.symm]
      exact Nat.add_le_add_right (Ledger.le_transfer hrepay _ hne) _
    · intro t ht a
      rw [Ledger.transfer_token hprofit ht, Ledger.transfer_token hrepay ht]
  · constructor
    · have hsrc := Ledger.transfer_src hrepay hself
      have hleft := Ledger.le_transfer_add hprofit
      omega
    · rw [Ledger.transfer_dst hrepay hself]
      exact Nat.add_le_add_right (Ledger.le_transfer hprofit _ hself.symm) _
    · intro hne
      rw [← Ledger.transfer_dst hprofit hne.symm]
      exact Ledger.le_transfer hrepay _ hne
    · intro t ht a
      rw [Ledger.transfer_token hrepay ht, Ledger.transfer_token hprofit ht]

/-- **A settled loan**: the profit is what the legs have left over the balance before and the
repayment, and the provider can take what it has not been given. -/
theorem settle_spec {w w' : World Ω} (h : settle d w loan = some w') :
    ∃ profit paid, w.ledger loan.token d.self = loan.preExisting + loan.repay + profit
      ∧ loan.params.minProfit.val ≤ profit ∧ takeRepayment d w' loan = some paid
      ∧ Settled d loan profit w paid := by
  simp only [settle, Option.bind_eq_bind, Option.bind_eq_some_iff, Option.guard_eq_some',
    exists_const, Option.pure_def, Option.some.injEq] at h
  obtain ⟨hrange, hcovered, hmin, paying, hpaying, ledger, hprofit, rfl⟩ := h
  have hbal : w.ledger loan.token d.self = loan.preExisting + loan.repay
      + (w.ledger loan.token d.self - loan.preExisting - loan.repay) := by omega
  generalize w.ledger loan.token d.self - loan.preExisting - loan.repay = profit
    at hmin hprofit hbal
  refine ⟨profit, ?_⟩
  cases hprovider : loan.provider with
  | balancer =>
    simp only [repayLoan, hprovider, Option.map_eq_some_iff] at hpaying
    obtain ⟨ledger', hrepay, rfl⟩ := hpaying
    refine ⟨({ w with ledger := ledger } : World Ω).clear, hbal, hmin, ?_,
      settled_of_transfers hbal (.inl ⟨?_, hprofit⟩)⟩
    · rw [takeRepayment, hprovider]
    · rw [hprovider]
      exact hrepay
  | aave =>
    simp only [repayLoan, hprovider] at hpaying
    have hlt : loan.repay < 2 ^ 256 := by omega
    obtain ⟨hledger, hallowance⟩ := approveIfNeeded_spec hpaying hlt
    rw [hledger] at hprofit
    have henough : loan.repay ≤ ledger loan.token d.self := by
      have hleft := Ledger.le_transfer_add hprofit
      omega
    obtain ⟨ledger', hrepay⟩ : ∃ ledger',
        Ledger.transfer ledger loan.token d.self d.aavePool loan.repay = some ledger' :=
      ⟨_, Ledger.transfer_eq_some.2 ⟨henough, rfl⟩⟩
    refine ⟨{ ({ paying with ledger := ledger } : World Ω).clear with ledger := ledger' }, hbal,
      hmin, ?_, settled_of_transfers hbal (.inr ⟨hprofit, ?_⟩)⟩
    · simp only [takeRepayment, hprovider, Option.bind_eq_bind, Option.bind_eq_some_iff,
        Option.guard_eq_some', exists_const, Option.pure_def]
      exact ⟨hallowance, _, hrepay, rfl⟩
    · rw [hprovider]
      exact hrepay

/-! ## The loan -/

/-- Principal and fee of a callback with one asset. -/
def Callback.due : Callback → Option Nat
  | .executeOperation _ amount premium _ => some (amount.val + premium.val)
  | .receiveFlashLoan _ [amount] [fee] => some (amount.val + fee.val)
  | .receiveFlashLoan _ _ _ => none

theorem openLoan_spec {w : World Ω} {provider : Provider} {amount fee : Word}
    (h : openLoan d w provider token amount fee userData = some loan) :
    loan.repay = amount.val + fee.val ∧ decode userData = some loan.params
      ∧ loan.preExisting = w.ledger loan.token d.self - loan.params.amountBorrow.val := by
  simp only [openLoan, Option.bind_eq_bind, Option.bind_eq_some_iff, Option.guard_eq_some',
    exists_const, Option.pure_def, Option.some.injEq] at h
  obtain ⟨-, p, hdecode, -, ⟨-, hamount⟩, -, -, rfl⟩ := h
  refine ⟨?_, hdecode, ?_⟩
  · show p.amountBorrow.val + fee.val = _
    rw [hamount]
  · show (if amount.val < w.ledger p.borrowToken d.self then _ else _)
      = w.ledger p.borrowToken d.self - p.amountBorrow.val
    rw [hamount]
    split <;> omega

/-- A loan that a callback has opened: what is due, and the balance it starts from. -/
theorem enter_spec {w : World Ω} {sender : Address} {callback : Callback}
    (h : enter d w sender callback userData = some loan) :
    callback.due = some loan.repay ∧ decode userData = some loan.params
      ∧ loan.preExisting = w.ledger loan.token d.self - loan.params.amountBorrow.val := by
  unfold enter at h
  split at h
  · split at h
    · obtain ⟨hdue, hrest⟩ := openLoan_spec h
      exact ⟨congrArg some hdue.symm, hrest⟩
    · cases h
  · split at h
    · obtain ⟨hdue, hrest⟩ := openLoan_spec h
      exact ⟨congrArg some hdue.symm, hrest⟩
    · cases h
  · cases h

/-! ## The legs -/

/-- A router that spends no more than the amount, delivers at least what it reports and takes
nothing else from the executor. -/
def Honest (d : Deployment) (router : Router Ω) (leg : Leg) : Prop :=
  ∀ amountIn w w' returned out, router leg amountIn w = some (w', returned) →
    reported leg.report returned = some out →
      ∀ t, w.ledger t d.self + (if t = leg.tokenOut then out else 0)
        ≤ w'.ledger t d.self + if t = leg.tokenIn then amountIn else 0

/-- What a leg has got is in its balance: a report is delivered, and a measure is a difference. -/
theorem legOut_spec {router : Router Ω} {w w' : World Ω} {leg : Leg} {out : Nat}
    {returned : List Nat} (hhonest : Honest d router leg)
    (hrouter : router leg amountIn w = some (w', returned))
    (hout : legOut d leg (w.ledger leg.tokenOut d.self) w' returned = some out)
    {base : Address → Nat} {borrowed : Address}
    (hbase : ∀ t, t ≠ borrowed →
      base t + (if t = leg.tokenIn then amountIn else 0) ≤ w.ledger t d.self) :
    ∀ t, t ≠ borrowed → base t + (if t = leg.tokenOut then out else 0) ≤ w'.ledger t d.self := by
  intro t ht
  have hstart := hbase t ht
  unfold Honest at hhonest
  simp only [legOut, Option.bind_eq_bind, Option.bind_eq_some_iff, Option.guard_eq_some',
    exists_const, Option.pure_def, Option.some.injEq] at hout
  obtain ⟨amount, hreceived, -, rfl⟩ := hout
  cases hreport : leg.report with
  | measured =>
    have hnothing := hhonest amountIn w w' returned 0 hrouter (by rw [hreport]; rfl) t
    simp only [received, hreport] at hreceived
    split at hreceived
    · cases hreceived
    · rename_i hmore
      cases hreceived
      by_cases htoken : t = leg.tokenOut
      · subst htoken
        rw [if_pos rfl]
        omega
      · rw [if_neg htoken]
        omega
  | single =>
    rw [hreport] at hreceived
    have hdelivered := hhonest amountIn w w' returned amount hrouter
      (by rw [hreport]; exact hreceived) t
    omega
  | last =>
    rw [hreport] at hreceived
    have hdelivered := hhonest amountIn w w' returned amount hrouter
      (by rw [hreport]; exact hreceived) t
    omega

/-- **The legs spend what the legs before them got**: with honest routers no token but the one
that is borrowed is lower after them. The induction is on the legs, with the amount on its way
in the balance of its token. -/
theorem runLegs_others {router : Router Ω} {legs : List Leg} {w w' : World Ω}
    (h : runLegs d router w legs amountIn = some w') (hhonest : ∀ leg ∈ legs, Honest d router leg)
    (hconnected : Connected token legs) {base : Address → Nat} {borrowed : Address}
    (hbase : ∀ t, t ≠ borrowed → base t + (if t = token then amountIn else 0) ≤ w.ledger t d.self) :
    ∀ t, t ≠ borrowed → base t ≤ w'.ledger t d.self := by
  induction legs generalizing w amountIn token with
  | nil =>
    cases h
    exact fun t ht => (Nat.le_add_right _ _).trans (hbase t ht)
  | cons leg legs ih =>
    obtain ⟨htokenIn, hrest⟩ := hconnected
    simp only [runLegs, Option.bind_eq_bind, Option.bind_eq_some_iff, Prod.exists] at h
    obtain ⟨w₁, beforeOut, hprepare, w₂, returned, hrouter, out, hout, hlegs⟩ := h
    obtain ⟨hledger, hbefore⟩ := prepareLeg_ledger hprepare
    rw [hbefore, ← hledger] at hout
    apply ih hlegs (fun leg hleg => hhonest leg (List.mem_cons_of_mem _ hleg)) hrest
    apply legOut_spec (hhonest leg List.mem_cons_self) hrouter hout
    intro t ht
    rw [hledger, htokenIn]
    exact hbase t ht

/-! ## The callback -/

/-- User data that an accepted `execute` has committed to. -/
def CommittedTo (Ω : Type) (userData : List Byte) : Prop :=
  ∃ (w w' : World Ω) (sender : Address) (p : Params),
    execute w sender p = some w' ∧ userData = p.encode

theorem execute_connected {w w' : World Ω} {sender : Address} {p : Params}
    (h : execute w sender p = some w') : Connected p.borrowToken p.legs := by
  simp only [execute, Option.bind_eq_bind, Option.bind_eq_some_iff, Option.guard_eq_some',
    exists_const] at h
  exact h.2.2.2.2.2.1

theorem connected_of_committed (h : CommittedTo Ω userData) {p : Params}
    (hp : decode userData = some p) : Connected p.borrowToken p.legs := by
  obtain ⟨w, w', sender, q, hexecute, hdata⟩ := h
  have hq : q = p := by
    rw [hdata, decode_encode] at hp
    exact Option.some.inj hp
  rw [← hq]
  exact execute_connected hexecute

/-- A router that pays what it is told for every leg, out of nothing. -/
def payingRouter (amount : Nat) : Router Unit := fun leg _ w =>
  some ({ w with
    ledger := Ledger.credit w.ledger leg.tokenOut sampleDeployment.self amount }, [amount])

end SovereignCapital.Executor
