import PulseMesh.Lib.Returns
import PulseMesh.Neighborhood.BestRoute

/-!
# What a route should cost

The undesirability of a route is a sum of charges, computed with machine integers: products of rates and
payload sizes in `u64`, sums in `i64`.  Against them stand the charges as the rates say, in integers.
-/

namespace PulseMesh.Neighborhood

open Machine SubLib List Int

/-! ### Charges without overflow -/

def RatePack.idealRoutingCharge (ratePack : RatePack) (payloadSize : Int) : Int :=
  ratePack.routingServiceRate.val + ratePack.routingByteRate.val * payloadSize

def RatePack.idealExitCharge (ratePack : RatePack) (payloadSize : Int) : Int :=
  ratePack.exitServiceRate.val + ratePack.exitByteRate.val * payloadSize

def hostPenalty (record : NodeRecord) : Option String → Int
  | none => 0
  | some hostname => if hostname ∈ record.unreachableHosts then unreachableHostPenalty.val else 0

def idealUndesirability (record : NodeRecord) (payloadSize : Int) : UndesirabilityType → Int
  | .relay => record.ratePack.idealRoutingCharge payloadSize
  | .exitRequest hostnameOpt =>
    record.ratePack.idealExitCharge payloadSize + hostPenalty record hostnameOpt +
      record.countryUndesirability.val
  | .exitAndRouteResponse =>
    record.ratePack.idealExitCharge payloadSize + record.ratePack.idealRoutingCharge payloadSize

/-- A rate pack that is nowhere lower. -/
structure RatePack.Le (ratePack dearer : RatePack) : Prop where
  routingByteRate : ratePack.routingByteRate.val ≤ dearer.routingByteRate.val
  routingServiceRate : ratePack.routingServiceRate.val ≤ dearer.routingServiceRate.val
  exitByteRate : ratePack.exitByteRate.val ≤ dearer.exitByteRate.val
  exitServiceRate : ratePack.exitServiceRate.val ≤ dearer.exitServiceRate.val

section

lemma returns_exact (p) (fits : t.Holds x) : Returns (arith p t x) fun w => w.val = x :=
  .of_eq (arith_ok p fits) rfl

lemma add_exact {a b : I64} (isX : a.val = x) (isY : b.val = y) (nonneg : 0 ≤ x ∧ 0 ≤ y)
    (fits : x + y < 2 ^ 63) : Returns (a.add p b) fun sum => sum.val = x + y := by
  subst isX isY
  exact returns_exact p ((i64_holds _).mpr ⟨by omega, fits⟩)

lemma charge_nonneg (serviceRate byteRate payloadSize : U64) :
    0 ≤ serviceRate.val + byteRate.val * payloadSize.val :=
  add_nonneg (U64.bounds _).1 (mul_nonneg (U64.bounds _).1 (U64.bounds _).1)

/-- A charge by the byte on top of one for the service, as a summand of an undesirability. -/
lemma charge_exact (serviceRate byteRate payloadSize : U64)
    (fits : serviceRate.val + byteRate.val * payloadSize.val < 2 ^ 63) :
    Returns (do
      let byteCharge ← byteRate.mul p payloadSize
      serviceRate.add p byteCharge) fun charge =>
        (charge.cast i64).val = serviceRate.val + byteRate.val * payloadSize.val := by
  have service := U64.bounds serviceRate
  have bytes := mul_nonneg (U64.bounds byteRate).1 (U64.bounds payloadSize).1
  refine (returns_exact p ((u64_holds _).mpr ⟨bytes, by omega⟩)).bind fun byteCharge isProduct => ?_
  rw [← isProduct] at bytes fits ⊢
  refine (returns_exact p ((u64_holds _).mpr ⟨by omega, by omega⟩)).mono fun charge isSum => ?_
  rw [Word.cast_val ((i64_holds _).mpr (by omega)), isSum]

lemma hostPenalty_bounds (record hostnameOpt) :
    0 ≤ hostPenalty record hostnameOpt ∧ hostPenalty record hostnameOpt ≤ 100000000 := by
  cases hostnameOpt with
  | none => simp [hostPenalty]
  | some hostname =>
    simp only [hostPenalty, unreachableHostPenalty]
    split <;> decide

lemma idealUndesirability_nonneg (record) (payloadSize : U64) (kind) :
    0 ≤ idealUndesirability record payloadSize.val kind := by
  have routing := charge_nonneg record.ratePack.routingServiceRate record.ratePack.routingByteRate payloadSize
  have exit := charge_nonneg record.ratePack.exitServiceRate record.ratePack.exitByteRate payloadSize
  cases kind with
  | relay => exact routing
  | exitRequest hostnameOpt =>
    have penalty := hostPenalty_bounds record hostnameOpt
    have country := U32.bounds record.countryUndesirability
    simp only [idealUndesirability, RatePack.idealExitCharge]
    omega
  | exitAndRouteResponse => exact add_nonneg exit routing

/-- Whatever a Node is charged for, a charge that fits is the one that its rates say. -/
lemma computeUndesirability_exact {kind : UndesirabilityType}
    (fits : idealUndesirability record payloadSize.val kind < 2 ^ 63) :
    Returns (computeUndesirability p record payloadSize kind) fun undesirability =>
      undesirability.val = idealUndesirability record payloadSize.val kind := by
  have routingNonneg := charge_nonneg record.ratePack.routingServiceRate record.ratePack.routingByteRate
    payloadSize
  have exitNonneg := charge_nonneg record.ratePack.exitServiceRate record.ratePack.exitByteRate payloadSize
  cases kind with
  | relay => exact (charge_exact _ _ payloadSize fits).bind fun charge isCharge => .ok isCharge
  | exitRequest hostnameOpt =>
    have penalty := hostPenalty_bounds record hostnameOpt
    have country := U32.bounds record.countryUndesirability
    have countryCast : (record.countryUndesirability.cast i64).val = record.countryUndesirability.val :=
      Word.cast_val ((i64_holds _).mpr (by omega))
    simp only [idealUndesirability, RatePack.idealExitCharge] at fits ⊢
    -- a country penalty is added in either case, a host penalty only if there is a host
    cases hostnameOpt with
    | none =>
      rw [hostPenalty, add_zero] at fits ⊢
      refine (charge_exact _ _ payloadSize (by omega)).bind fun charge isCharge => ?_
      exact add_exact isCharge countryCast ⟨exitNonneg, country.1⟩ fits
    | some hostname =>
      have penaltyIs : (if hostname ∈ record.unreachableHosts then unreachableHostPenalty
          else ⟨0, by decide⟩ : I64).val = hostPenalty record (some hostname) := by
        simp only [hostPenalty]
        split <;> rfl
      refine (charge_exact _ _ payloadSize (by omega)).bind fun charge isCharge => ?_
      refine (add_exact isCharge penaltyIs ⟨exitNonneg, penalty.1⟩ (by omega)).bind fun penalized isSum => ?_
      exact add_exact isSum countryCast ⟨add_nonneg exitNonneg penalty.1, country.1⟩ fits
  | exitAndRouteResponse =>
    simp only [idealUndesirability, RatePack.idealExitCharge, RatePack.idealRoutingCharge] at fits ⊢
    refine (charge_exact _ _ payloadSize (by omega)).bind fun exit isExit => ?_
    refine (charge_exact _ _ payloadSize (by omega)).bind fun routing isRouting => ?_
    exact add_exact isExit isRouting ⟨exitNonneg, routingNonneg⟩ fits

/-- With everything but the rates equal, the ideal charge of the dearer Node is no lower. -/
lemma idealUndesirability_mono (rates : record.ratePack.Le other.ratePack)
    (hosts : record.unreachableHosts = other.unreachableHosts)
    (country : record.countryUndesirability = other.countryUndesirability) (payloadSize : U64) (kind) :
    idealUndesirability record payloadSize.val kind ≤ idealUndesirability other payloadSize.val kind := by
  have size := (U64.bounds payloadSize).1
  have routing : record.ratePack.idealRoutingCharge payloadSize.val ≤
      other.ratePack.idealRoutingCharge payloadSize.val :=
    add_le_add rates.routingServiceRate (mul_le_mul_of_nonneg_right rates.routingByteRate size)
  have exit : record.ratePack.idealExitCharge payloadSize.val ≤
      other.ratePack.idealExitCharge payloadSize.val :=
    add_le_add rates.exitServiceRate (mul_le_mul_of_nonneg_right rates.exitByteRate size)
  cases kind with
  | relay => exact routing
  | exitRequest hostnameOpt =>
    have penalty : hostPenalty record hostnameOpt = hostPenalty other hostnameOpt := by
      cases hostnameOpt <;> simp [hostPenalty, hosts]
    simp only [idealUndesirability, penalty, country]
    omega
  | exitAndRouteResponse => exact add_le_add exit routing

end

/-! ### Sums along a path -/

section

variable (p : Profile) (hood : NeighborhoodState) (query : RouteQuery)

/-- The undesirability after some more hops, computed as the engine does. -/
def addHops : Nat → I64 → List PublicKey → Except Panic I64
  | _, undesirability, [] => .ok undesirability
  | hopsRemaining, undesirability, key :: keys =>
    match hood.neighborhoodDatabase.nodeByKey key with
    | none => .error (.raised "Node not found")
    | some record => do
      let newUndesirability ← computeNewUndesirability p record undesirability query.targetOpt
        (hopsRemaining - 1) query.payloadSize query.direction query.hostnameOpt
      addHops (hopsRemaining - 1) newUndesirability keys

def pathTotal (path : List PublicKey) : Except Panic I64 := do
  let initial ← computeInitialUndesirability p hood query.source query.payloadSize query.direction
  addHops p hood query query.minimumHops initial path.tail

/-- What a Node should add to the undesirability when so many hops remain. -/
def idealNode (hopsRemaining : Nat) (key : PublicKey) : Int :=
  match hood.neighborhoodDatabase.nodeByKey key with
  | none => 0
  | some record => idealUndesirability record query.payloadSize.val
      (newUndesirabilityType query.direction query.targetOpt hopsRemaining query.hostnameOpt)

def idealHops : Nat → List PublicKey → Int
  | _, [] => 0
  | hopsRemaining, key :: keys =>
    idealNode hood query (hopsRemaining - 1) key + idealHops (hopsRemaining - 1) keys

def idealInitial : Int :=
  match query.direction with
  | .over => 0
  | .back =>
    match hood.neighborhoodDatabase.nodeByKey query.source with
    | none => 0
    | some record => idealUndesirability record query.payloadSize.val .exitAndRouteResponse

def idealCost (path : List PublicKey) : Int :=
  idealInitial hood query + idealHops hood query query.minimumHops path.tail

/-- The sum along a path and the last charge in it are what the rates say, and so not negative. -/
structure PathExact (path : List PublicKey) : Prop where
  total : Returns (pathTotal p hood query path) fun total =>
    0 ≤ total.val ∧ total.val = idealCost hood query path
  charge : ∀ last ∈ path.tail.getLast?, ∀ record, hood.neighborhoodDatabase.nodeByKey last = some record →
    Returns (computeUndesirability p record query.payloadSize (newUndesirabilityType query.direction
      query.targetOpt (query.minimumHops - hops path) query.hostnameOpt)) fun charge =>
        0 ≤ charge.val ∧ charge.val = idealNode hood query (query.minimumHops - hops path) last

def ExactCosts : Prop :=
  ∀ path, SimplePath hood query path → PathExact p hood query path

def FittingCosts : Prop :=
  ∀ path, SimplePath hood query path → idealCost hood query path < 2 ^ 63

/-- A Node whose rates are nowhere higher than those of another one, with everything else equal. -/
def NodeLe (key dearer : PublicKey) : Prop :=
  ∃ record other, hood.neighborhoodDatabase.nodeByKey key = some record ∧
    hood.neighborhoodDatabase.nodeByKey dearer = some other ∧ record.ratePack.Le other.ratePack ∧
    record.unreachableHosts = other.unreachableHosts ∧
    record.countryUndesirability = other.countryUndesirability

end

section

variable {p : Profile} {hood : NeighborhoodState} {query : RouteQuery}

lemma idealNode_nonneg (hopsRemaining : Nat) (key) : 0 ≤ idealNode hood query hopsRemaining key := by
  unfold idealNode
  split
  · exact le_refl 0
  · exact idealUndesirability_nonneg _ _ _

lemma idealHops_nonneg (hopsRemaining : Nat) (keys) : 0 ≤ idealHops hood query hopsRemaining keys := by
  induction keys generalizing hopsRemaining with
  | nil => exact le_refl 0
  | cons key keys ih => exact add_nonneg (idealNode_nonneg _ _) (ih _)

lemma idealInitial_nonneg : 0 ≤ idealInitial hood query := by
  unfold idealInitial
  split
  · exact le_refl 0
  · split
    · exact le_refl 0
    · exact idealUndesirability_nonneg _ _ _

lemma idealHops_snoc (hopsRemaining : Nat) (keys key) :
    idealHops hood query hopsRemaining (keys ++ [key]) = idealHops hood query hopsRemaining keys +
        idealNode hood query (hopsRemaining - (keys.length + 1)) key := by
  induction keys generalizing hopsRemaining with
  | nil => simp [idealHops]
  | cons first keys ih =>
    have position : hopsRemaining - 1 - (keys.length + 1) = hopsRemaining - (keys.length + 1 + 1) := by omega
    rw [cons_append, idealHops, idealHops, ih, length_cons, position, Int.add_assoc]

variable {keys : List PublicKey}

/-- The sum is exact all the way, because no summand is negative and the last sum fits. -/
lemma addHops_exact (known : ∀ key ∈ keys, (hood.neighborhoodDatabase.nodeByKey key).isSome)
    (nonneg : 0 ≤ undesirability.val)
    (fits : undesirability.val + idealHops hood query hopsRemaining keys < 2 ^ 63) :
    Returns (addHops p hood query hopsRemaining undesirability keys) fun total =>
      total.val = undesirability.val + idealHops hood query hopsRemaining keys := by
  induction keys generalizing hopsRemaining undesirability with
  | nil => exact .ok (by simp [idealHops])
  | cons key keys ih =>
    rw [forall_mem_cons] at known
    obtain ⟨record, found⟩ := Option.isSome_iff_exists.mp known.1
    have chargeNonneg := @idealNode_nonneg hood query (hopsRemaining - 1) key
    have restNonneg := @idealHops_nonneg hood query (hopsRemaining - 1) keys
    have chargeIs : idealNode hood query (hopsRemaining - 1) key = idealUndesirability record
        query.payloadSize.val (newUndesirabilityType query.direction query.targetOpt (hopsRemaining - 1)
          query.hostnameOpt) := by
      simp only [idealNode, found]
    rw [idealHops] at fits ⊢
    rw [chargeIs] at fits chargeNonneg ⊢
    simp only [addHops, found]
    -- one more charge, then the rest of the way
    have next : Returns (computeNewUndesirability p record undesirability query.targetOpt
        (hopsRemaining - 1) query.payloadSize query.direction query.hostnameOpt) fun sum =>
          sum.val = undesirability.val + idealUndesirability record query.payloadSize.val
            (newUndesirabilityType query.direction query.targetOpt (hopsRemaining - 1) query.hostnameOpt) :=
      (computeUndesirability_exact (by omega)).bind fun charge isCharge =>
        add_exact rfl isCharge ⟨nonneg, chargeNonneg⟩ (by omega)
    refine next.bind fun sum isSum => (ih known.2 (by omega) (by omega)).mono fun total isTotal => ?_
    omega

lemma isSome_nodeByKey {db : NeighborhoodDatabase} (listed : key ∈ db.nodes.map NodeRecord.publicKey) :
    (db.nodeByKey key).isSome := by
  obtain ⟨record, member, under⟩ := mem_map.mp listed
  rw [NeighborhoodDatabase.nodeByKey, find?_isSome]
  exact ⟨record, member, by simpa using under⟩

section

variable (known : (hood.neighborhoodDatabase.nodeByKey query.source).isSome)
include known

lemma initial_exact (fits : idealInitial hood query < 2 ^ 63) :
    Returns (computeInitialUndesirability p hood query.source query.payloadSize query.direction)
      fun initial => initial.val = idealInitial hood query := by
  obtain ⟨record, found⟩ := Option.isSome_iff_exists.mp known
  unfold idealInitial at fits ⊢
  unfold computeInitialUndesirability
  match isDirection : query.direction with
  | .over => exact .ok rfl
  | .back =>
    simp only [isDirection, found] at fits ⊢
    exact computeUndesirability_exact fits

variable {path : List PublicKey}

lemma pathExact_of_fits (simple : SimplePath hood query path)
    (fits : idealCost hood query path < 2 ^ 63) : PathExact p hood query path where
  total := by
    have initialNonneg := @idealInitial_nonneg hood query
    have restNonneg := @idealHops_nonneg hood query query.minimumHops path.tail
    rw [idealCost] at fits
    refine (initial_exact known (by omega)).bind fun initial isInitial => ?_
    rw [← isInitial] at fits initialNonneg
    have keysKnown : ∀ key ∈ path.tail, (hood.neighborhoodDatabase.nodeByKey key).isSome :=
      fun key visited => isSome_nodeByKey (known_of_linked simple.links key visited)
    refine (addHops_exact keysKnown initialNonneg fits).mono fun total isTotal => ⟨by omega, ?_⟩
    rw [isTotal, isInitial, idealCost]
  charge := by
    intro last isLast record found
    have initialNonneg := @idealInitial_nonneg hood query
    obtain ⟨keys, isTail⟩ := getLast?_eq_some_iff.mp isLast
    have keysNonneg := @idealHops_nonneg hood query query.minimumHops keys
    have position : hops path = keys.length + 1 := by
      rw [hops, ← length_tail, isTail, length_append, length_singleton]
    rw [idealCost, isTail, idealHops_snoc, ← position] at fits
    simp only [idealNode, found] at fits ⊢
    refine (computeUndesirability_exact (by omega)).mono fun charge isCharge => ⟨?_, isCharge⟩
    rw [isCharge]
    exact idealUndesirability_nonneg _ _ _

/-- All sums of a search are exact iff they should all be below the limit of `i64`. -/
lemma exactCosts_iff : ExactCosts p hood query ↔ FittingCosts hood query := by
  constructor
  · intro exact_ path simple
    obtain ⟨total, -, -, isTotal⟩ := (exact_ path simple).total
    rw [← isTotal]
    exact (I64.bounds total).2
  · intro fits path simple
    exact pathExact_of_fits known simple (fits path simple)

end

/-! ### Dearer paths -/

lemma idealNode_mono (le : NodeLe hood key dearer) (hopsRemaining : Nat) :
    idealNode hood query hopsRemaining key ≤ idealNode hood query hopsRemaining dearer := by
  obtain ⟨record, other, found, foundOther, rates, hosts, country⟩ := le
  simp only [idealNode, found, foundOther]
  exact idealUndesirability_mono rates hosts country _ _

lemma idealHops_mono (nodes : Forall₂ (NodeLe hood) keys dearer) (hopsRemaining : Nat) :
    idealHops hood query hopsRemaining keys ≤ idealHops hood query hopsRemaining dearer := by
  induction nodes generalizing hopsRemaining with
  | nil => exact le_refl _
  | cons first _ ih => exact add_le_add (idealNode_mono first _) (ih _)

/-- Exact sums are in the order of the rates. -/
lemma pathTotal_mono (exact_ : ExactCosts p hood query) (simple : SimplePath hood query path)
    (simpleDearer : SimplePath hood query dearer) (nodes : Forall₂ (NodeLe hood) path.tail dearer.tail) :
    ∃ total dearerTotal, pathTotal p hood query path = .ok total ∧
      pathTotal p hood query dearer = .ok dearerTotal ∧ total.val ≤ dearerTotal.val := by
  obtain ⟨total, computed, -, isTotal⟩ := (exact_ path simple).total
  obtain ⟨dearerTotal, computedDearer, -, isDearerTotal⟩ := (exact_ dearer simpleDearer).total
  refine ⟨total, dearerTotal, computed, computedDearer, ?_⟩
  rw [isTotal, isDearerTotal]
  exact add_le_add (le_refl _) (idealHops_mono nodes _)

/-- Small charges do not add up to much. -/
lemma idealCost_le {bound} (initial : idealInitial hood query ≤ bound)
    (nodes : ∀ hopsRemaining key, idealNode hood query hopsRemaining key ≤ bound)
    (simple : SimplePath hood query path) :
    idealCost hood query path ≤ bound + hood.neighborhoodDatabase.nodes.length * bound := by
  have nonneg := le_trans (@idealInitial_nonneg hood query) initial
  have each : ∀ hopsRemaining keys, idealHops hood query hopsRemaining keys ≤ keys.length * bound := by
    intro hopsRemaining keys
    induction keys generalizing hopsRemaining with
    | nil => simp [idealHops]
    | cons key keys ih =>
      have first := nodes (hopsRemaining - 1) key
      have rest := ih (hopsRemaining - 1)
      rw [idealHops, length_cons, natCast_succ, add_mul]
      omega
  have sum := each query.minimumHops path.tail
  have fewer : (path.tail.length : Int) * bound ≤ hood.neighborhoodDatabase.nodes.length * bound :=
    mul_le_mul_of_nonneg_right (ofNat_le.mpr (length_tail_le simple)) nonneg
  rw [idealCost]
  omega

/-! ### The sums of the engine -/

lemma addHops_snoc (added : addHops p hood query hopsRemaining undesirability keys = .ok middle)
    (found : hood.neighborhoodDatabase.nodeByKey record.publicKey = some record) :
    addHops p hood query hopsRemaining undesirability (keys ++ [record.publicKey]) =
      computeNewUndesirability p record middle query.targetOpt (hopsRemaining - (keys.length + 1))
        query.payloadSize query.direction query.hostnameOpt := by
  induction keys generalizing hopsRemaining undesirability with
  | nil =>
    cases added
    simp only [nil_append, addHops, found]
    cases computeNewUndesirability p record _ _ _ _ _ _ <;> rfl
  | cons first keys ih =>
    have position : hopsRemaining - 1 - (keys.length + 1) = hopsRemaining - (keys.length + 1 + 1) := by omega
    simp only [cons_append, addHops] at added ⊢
    split at added
    · cases added
    · obtain ⟨next, computed, added⟩ := ok_of_bind added
      rw [computed, ok_bind, ih added, position]
      rfl

/-- The sum along a longer path starts with the sum along this path. -/
lemma pathTotal_snoc (nonempty : path ≠ []) (total : pathTotal p hood query path = .ok undesirability)
    (found : hood.neighborhoodDatabase.nodeByKey record.publicKey = some record) :
    pathTotal p hood query (path ++ [record.publicKey]) =
      computeNewUndesirability p record undesirability query.targetOpt (query.minimumHops - hops path - 1)
        query.payloadSize query.direction query.hostnameOpt := by
  obtain ⟨initial, begins, added⟩ := ok_of_bind total
  rw [pathTotal, begins, ok_bind, tail_append_of_ne_nil nonempty, addHops_snoc added found, hops,
    length_tail, Nat.sub_sub]

/-- The sum along every simple path can be computed. -/
def Computes (p : Profile) (hood : NeighborhoodState) (query : RouteQuery) : Prop :=
  ∀ path, SimplePath hood query path → ∃ total, pathTotal p hood query path = .ok total

end

end PulseMesh.Neighborhood
