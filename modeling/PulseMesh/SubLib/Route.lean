import PulseMesh.Lib.Onion
import PulseMesh.SubLib.Cryptde

/-!
# Routes

A route is a list of hops, each encrypted for the Node that takes it off, and behind them, on a
round trip, the id under which the originator keeps the return route.  A Node that takes off its
hop learns the next key, the component the package is for and who pays; it puts as many random
bytes at the end as it took from the front.
-/

namespace PulseMesh.SubLib

open Machine Rows Onion List

inductive Component where
  | neighborhood
  | hopper
  | proxyServer
  | proxyClient
deriving DecidableEq

structure LiveHop where
  publicKey : PublicKey
  payer : Option Payer
  component : Component
deriving DecidableEq

structure Route where
  hops : List CryptData
deriving DecidableEq

structure RouteSegment where
  keys : List PublicKey
  recipient : Component

def emptyKey : PublicKey := ⟨[]⟩

/-- What the random generator writes into a buffer of the given length. -/
abbrev Random := (length : Nat) → { bytes : Bytes // bytes.length = length }

def zeros : Random := fun length => ⟨replicate length 0, length_replicate⟩

def tupleWindows (keys : List PublicKey) : List (PublicKey × PublicKey) := keys.zip keys.tail

def validateRouteSegments (overLeg : RouteSegment) (backOpt : Option RouteSegment) : Option RouteError :=
  if overLeg.keys.isEmpty then
    some .tooFewKeysInRouteSegment
  else
    match backOpt with
    | none => none
    | some back =>
      if back.keys.isEmpty then
        some .tooFewKeysInRouteSegment
      else if back.keys.head? ≠ overLeg.keys.getLast? then
        some .disjointRouteSegments
      else
        none

section

variable (keccak256 : Bytes → Bytes) (hopCodec : Codec LiveHop) (idCodec : Codec UInt32)
  (consumingWalletOpt : Option Wallet) (contractAddressOpt : Option Address)

/-- The hop that `currentKey` takes off. -/
def liveHopFor (currentKey nextKey : PublicKey) (component : Component) : Except Panic LiveHop := do
  let payer ← payerOpt keccak256 consumingWalletOpt contractAddressOpt currentKey
  return ⟨nextKey, payer, component⟩

/-- The hop that ends a segment names no next key. -/
def lastHopFor (lastKeyOpt : Option PublicKey) (component : Component) : Except Panic LiveHop :=
  match lastKeyOpt with
  | some lastKey =>
    liveHopFor keccak256 consumingWalletOpt contractAddressOpt lastKey emptyKey component
  | none => .ok ⟨emptyKey, none, component⟩

def overSegment (oneWay : Bool) (overKeys : List PublicKey) (overComponent : Component) :
    Except Panic (List LiveHop) := do
  let hops ← (tupleWindows overKeys).mapM fun (currentKey, nextKey) =>
    liveHopFor keccak256 consumingWalletOpt contractAddressOpt currentKey nextKey .hopper
  if oneWay then
    -- the last key is known from the last window only
    let last ← lastHopFor keccak256 consumingWalletOpt contractAddressOpt overKeys.tail.getLast?
      overComponent
    return hops ++ [last]
  else
    return hops

def backSegment (backOpt : Option RouteSegment) (overComponent : Component) (hops : List LiveHop) :
    Except Panic (List LiveHop) :=
  match backOpt with
  | none => .ok hops
  | some back => do
    let backHops ← (tupleWindows back.keys).zipIdx.mapM fun ((currentKey, nextKey), keyIndex) =>
      liveHopFor keccak256 consumingWalletOpt contractAddressOpt currentKey nextKey
        (if keyIndex = 0 then overComponent else .hopper)
    let last ← lastHopFor keccak256 consumingWalletOpt contractAddressOpt back.keys.getLast?
      back.recipient
    return hops ++ backHops ++ [last]

/-- Every hop is encrypted for the key its predecessor names. -/
def encodeHops (cryptde : CryptDE) (hopKey : PublicKey) : List LiveHop → Except CodexError (List CryptData)
  | [] => .ok []
  | hop :: hops => do
    let hopEnc ← encodex hopCodec cryptde hopKey hop
    let hopsEnc ← encodeHops cryptde hop.publicKey hops
    return hopEnc :: hopsEnc

def encryptReturnRouteId (returnRouteId : UInt32) (cryptde : CryptDE) : Except Panic CryptData :=
  match encodex idCodec cryptde cryptde.publicKey returnRouteId with
  | .ok c => .ok c
  | .error e => .error (.raised s!"Internal error encrypting u32 return_route_id: {e.debug}")

def hopsToRoute (hops : List LiveHop) (topHopKey : PublicKey) (returnRouteIdOpt : Option UInt32)
    (cryptde : CryptDE) : Except Panic (Except CodexError Route) :=
  match encodeHops hopCodec cryptde topHopKey hops with
  | .error e => .ok (.error e)
  | .ok hopsEnc =>
    match returnRouteIdOpt with
    | none => .ok (.ok ⟨hopsEnc⟩)
    | some returnRouteId => do
      let returnRouteIdEnc ← encryptReturnRouteId idCodec returnRouteId cryptde
      return .ok ⟨hopsEnc ++ [returnRouteIdEnc]⟩

def construct (overLeg : RouteSegment) (backOpt : Option RouteSegment) (cryptde : CryptDE)
    (returnRouteIdOpt : Option UInt32) : Except Panic (Except CodexError Route) :=
  match validateRouteSegments overLeg backOpt with
  | some error => .ok (.error (.routingError error))
  | none => do
    let overHops ← overSegment keccak256 consumingWalletOpt contractAddressOpt backOpt.isNone
      overLeg.keys overLeg.recipient
    let hops ← backSegment keccak256 consumingWalletOpt contractAddressOpt backOpt overLeg.recipient
      overHops
    -- validated segments are not empty
    hopsToRoute hopCodec idCodec hops (overLeg.keys.headD emptyKey) returnRouteIdOpt cryptde

def roundTrip (overLeg back : RouteSegment) (cryptde : CryptDE) (returnRouteId : UInt32) :
    Except Panic (Except CodexError Route) :=
  construct keccak256 hopCodec idCodec consumingWalletOpt contractAddressOpt overLeg (some back) cryptde
    (some returnRouteId)

def oneWay (overLeg : RouteSegment) (cryptde : CryptDE) : Except Panic (Except CodexError Route) :=
  construct keccak256 hopCodec idCodec consumingWalletOpt contractAddressOpt overLeg none cryptde none

end

section

variable (hopCodec : Codec LiveHop) (idCodec : Codec UInt32)

def Route.id (cryptde : CryptDE) (route : Route) : Except String UInt32 :=
  match route.hops with
  | first :: _ =>
    match decodex idCodec cryptde first with
    | .ok n => .ok n
    | .error e => .error e.debug
  | [] => .error "Response route did not contain a return route ID"

/-- The hop that comes off and the route after that; the hop is gone even if it does not decode. -/
def Route.shift (cryptde : CryptDE) (random : Random) (route : Route) :
    Except CodexError LiveHop × Route :=
  match route.hops with
  | [] => (.error (.routingError .emptyRoute), route)
  | topHop :: hops =>
    match decodex hopCodec cryptde topHop with
    | .error e => (.error e, ⟨hops⟩)
    | .ok nextHop => (.ok nextHop, ⟨hops ++ [⟨(random topHop.data.length).val⟩]⟩)

/-- The hops that come off when one Node after the other shifts the route. -/
def Route.shifts (cryptdeOf : PublicKey → CryptDE) :
    List (PublicKey × Random) → Route → Except CodexError (List LiveHop × Route)
  | [], route => .ok ([], route)
  | (key, random) :: nodes, route =>
    match route.shift hopCodec (cryptdeOf key) random with
    | (.error e, _) => .error e
    | (.ok hop, rest) => do
      let (hops, last) ← rest.shifts cryptdeOf nodes
      return (hop :: hops, last)

end

/-! ### The hops of a round trip -/

/-- The keys in the order of the two segments; the exit, where they meet, is one of them. -/
def visitedKeys (overLeg back : RouteSegment) : List PublicKey := overLeg.keys.dropLast ++ back.keys

@[simp] lemma tupleWindows_cons_cons (first second keys) :
    tupleWindows (first :: second :: keys) = (first, second) :: tupleWindows (second :: keys) := rfl

lemma tupleWindows_joined (meets : backKeys.head? = overKeys.getLast?) (nonempty : overKeys ≠ []) :
    tupleWindows (overKeys.dropLast ++ backKeys) = tupleWindows overKeys ++ tupleWindows backKeys := by
  induction overKeys with
  | nil => exact absurd rfl nonempty
  | cons first overKeys ih =>
    cases overKeys with
    | nil => rfl
    | cons second overKeys =>
      have joined := ih meets (cons_ne_nil _ _)
      -- the joined keys behind the first one begin with the second one
      obtain ⟨keys, starts⟩ : ∃ keys, (second :: overKeys).dropLast ++ backKeys = second :: keys := by
        cases overKeys with
        | nil =>
          cases backKeys with
          | nil => cases meets
          | cons junction keys =>
            cases meets
            exact ⟨keys, rfl⟩
        | cons third overKeys => exact ⟨_, rfl⟩
      rw [starts] at joined
      rw [dropLast_cons_cons, cons_append, starts, tupleWindows_cons_cons, joined]
      rfl

lemma map_fst_tupleWindows (keys) : (tupleWindows keys).map Prod.fst = keys.dropLast := by
  induction keys with
  | nil => rfl
  | cons first keys ih =>
    cases keys with
    | nil => rfl
    | cons second keys => rw [tupleWindows_cons_cons, map_cons, ih, dropLast_cons_cons]

lemma map_snd_tupleWindows (keys) : (tupleWindows keys).map Prod.snd = keys.tail := by
  rw [tupleWindows, map_snd_zip (by simp)]

section

variable {keccak256 : Bytes → Bytes} {consumingWalletOpt : Option Wallet}
  {contractAddressOpt : Option Address} (keccak256 consumingWalletOpt contractAddressOpt) in
/-- The hop of a window: the first key takes it off and learns the second one. -/
def Leads (window : PublicKey × PublicKey) (hop : LiveHop) : Prop :=
  hop.publicKey = window.2 ∧
    payerOpt keccak256 consumingWalletOpt contractAddressOpt window.1 = .ok hop.payer

lemma liveHopFor_eq_ok (window : PublicKey × PublicKey)
    (made : liveHopFor keccak256 consumingWalletOpt contractAddressOpt window.1 window.2 component =
      .ok hop) :
    Leads keccak256 consumingWalletOpt contractAddressOpt window hop ∧ hop.component = component := by
  obtain ⟨payer, isPayer, built⟩ := ok_of_bind made
  cases built
  exact ⟨⟨rfl, isPayer⟩, rfl⟩

variable {hops : List LiveHop}

lemma overSegment_eq_ok (made : overSegment keccak256 consumingWalletOpt contractAddressOpt false overKeys
      overComponent = .ok hops) :
    Forall₂ (Leads keccak256 consumingWalletOpt contractAddressOpt) (tupleWindows overKeys) hops ∧
      hops.map LiveHop.component = replicate (overKeys.length - 1) .hopper := by
  obtain ⟨_, mapped, returned⟩ := ok_of_bind made
  cases returned
  have related := mapM_eq_ok.mp mapped
  refine ⟨related.imp fun _ _ made => (liveHopFor_eq_ok _ made).1, ?_⟩
  have components : hops.map LiveHop.component = (tupleWindows overKeys).map fun _ => .hopper :=
    map_eq_of_forall₂ related fun _ _ made => (liveHopFor_eq_ok _ made).2
  rw [components, map_const', tupleWindows, length_zip, length_tail]
  congr 1
  omega

lemma zipIdx_components {windows : List (PublicKey × PublicKey)} (component : Component)
    (nonempty : windows ≠ []) :
    (windows.zipIdx.map fun window => if window.2 = 0 then component else .hopper) =
      component :: replicate (windows.length - 1) .hopper := by
  cases windows with
  | nil => exact absurd rfl nonempty
  | cons window windows =>
    rw [zipIdx_cons, map_cons, cons.injEq]
    refine ⟨rfl, eq_replicate_iff.mpr ⟨by simp, ?_⟩⟩
    intro other member
    obtain ⟨⟨window, index⟩, indexed, rfl⟩ := mem_map.mp member
    have positive := le_snd_of_mem_zipIdx indexed
    exact if_neg (by dsimp only; omega)

lemma backSegment_eq_ok {back : RouteSegment} (backLong : 2 ≤ back.keys.length)
    (made : backSegment keccak256 consumingWalletOpt contractAddressOpt (some back) overComponent
      overHops = .ok hops) :
    ∃ backHops last, hops = overHops ++ backHops ++ [last] ∧
      Forall₂ (Leads keccak256 consumingWalletOpt contractAddressOpt) (tupleWindows back.keys) backHops ∧
      backHops.map LiveHop.component = overComponent :: replicate (back.keys.length - 2) .hopper ∧
      ∃ lastKey, back.keys.getLast? = some lastKey ∧ last.component = back.recipient ∧
        Leads keccak256 consumingWalletOpt contractAddressOpt (lastKey, emptyKey) last := by
  obtain ⟨backHops, mapped, rest⟩ := ok_of_bind made
  obtain ⟨last, lastMade, returned⟩ := ok_of_bind rest
  cases returned
  have related := mapM_eq_ok.mp mapped
  have length : (tupleWindows back.keys).length = back.keys.length - 1 := by simp [tupleWindows]
  refine ⟨backHops, last, rfl, ?_, ?_, ?_⟩
  · rw [← zipIdx_map_fst 0 (tupleWindows back.keys), forall₂_map_left_iff]
    exact related.imp fun _ _ made => (liveHopFor_eq_ok _ made).1
  · have components : backHops.map LiveHop.component = (tupleWindows back.keys).zipIdx.map
        fun window => if window.2 = 0 then overComponent else .hopper :=
      map_eq_of_forall₂ related fun _ _ made => (liveHopFor_eq_ok _ made).2
    rw [components, zipIdx_components overComponent (ne_nil_of_length_pos (by omega)), length, Nat.sub_sub]
  · have nonempty : back.keys ≠ [] := ne_nil_of_length_pos (by omega)
    rw [getLast?_eq_some_getLast nonempty] at lastMade ⊢
    obtain ⟨leads, component⟩ := liveHopFor_eq_ok (_, emptyKey) lastMade
    exact ⟨_, rfl, component, leads⟩

/-- What the hops of a round trip say, in the order in which they come off. -/
structure HopsOf (keccak256 : Bytes → Bytes) (consumingWalletOpt : Option Wallet)
    (contractAddressOpt : Option Address) (overLeg back : RouteSegment) (hops : List LiveHop) : Prop where
  next : hops.map LiveHop.publicKey = (visitedKeys overLeg back).tail ++ [emptyKey]
  components : hops.map LiveHop.component =
    replicate (overLeg.keys.length - 1) .hopper ++ [overLeg.recipient] ++
      replicate (back.keys.length - 2) .hopper ++ [back.recipient]
  payers : List.Forall₂
    (fun key hop => payerOpt keccak256 consumingWalletOpt contractAddressOpt key = .ok hop.payer)
    (visitedKeys overLeg back) hops

lemma hopsOf_segments (overLong : 2 ≤ overLeg.keys.length) (backLong : 2 ≤ back.keys.length)
    (meets : back.keys.head? = overLeg.keys.getLast?)
    (overMade : overSegment keccak256 consumingWalletOpt contractAddressOpt false overLeg.keys
      overLeg.recipient = .ok overHops)
    (backMade : backSegment keccak256 consumingWalletOpt contractAddressOpt (some back)
      overLeg.recipient overHops = .ok hops) :
    HopsOf keccak256 consumingWalletOpt contractAddressOpt overLeg back hops := by
  obtain ⟨overLeads, overComponents⟩ := overSegment_eq_ok overMade
  obtain ⟨backHops, last, rfl, backLeads, backComponents, lastKey, isLast, lastComponent,
    lastNext, lastPayer⟩ := backSegment_eq_ok backLong backMade
  -- the windows of the two segments are those of the visited keys
  have leads : Forall₂ (Leads keccak256 consumingWalletOpt contractAddressOpt)
      (tupleWindows (visitedKeys overLeg back)) (overHops ++ backHops) := by
    rw [visitedKeys, tupleWindows_joined meets (ne_nil_of_length_pos (by omega))]
    exact rel_append overLeads backLeads
  have split : visitedKeys overLeg back = (visitedKeys overLeg back).dropLast ++ [lastKey] := by
    rw [dropLast_append_getLast?]
    rw [visitedKeys, getLast?_append_of_ne_nil _ (ne_nil_of_length_pos (by omega))]
    exact isLast
  constructor
  · rw [map_append, map_singleton, lastNext, ← map_snd_tupleWindows]
    rw [map_eq_of_forall₂ leads fun _ _ lead => lead.1]
  · simp [overComponents, backComponents, lastComponent]
  · rw [split]
    refine rel_append ?_ (.cons lastPayer .nil)
    rw [← map_fst_tupleWindows, forall₂_map_left_iff]
    exact leads.imp fun _ _ lead => lead.2

end

/-! ### Taking off the hops -/

section

variable {hopCodec : Codec LiveHop} {idCodec : Codec UInt32} {cryptdeOf : PublicKey → CryptDE}
  {valid : PublicKey → Prop} {originator : PublicKey}

/-- Hops as the layers of an onion, encrypted by the originator. -/
def hopScheme (hopCodec : Codec LiveHop) (cryptdeOf : PublicKey → CryptDE) (originator : PublicKey) :
    Scheme PublicKey LiveHop CryptData CodexError where
  wrap key hop := encodex hopCodec (cryptdeOf originator) key hop
  unwrap key data := decodex hopCodec (cryptdeOf key) data

lemma hopScheme_correct (scheme : PublicKeyScheme cryptdeOf valid) (originator) :
    (hopScheme hopCodec cryptdeOf originator).Correct valid where
  unwraps := decodex_encodex scheme
  closed := decodex_other_key scheme

/-- Hops that name each other's keys are encrypted for the keys in this order. -/
lemma encodeHops_eq_wrapAll {topKey keys} (next : hops.map LiveHop.publicKey = keys ++ [emptyKey]) :
    encodeHops hopCodec (cryptdeOf originator) topKey hops =
      wrapAll (hopScheme hopCodec cryptdeOf originator) ((topKey :: keys).zip hops) := by
  induction hops generalizing topKey keys with
  | nil => simp at next
  | cons hop hops ih =>
    rw [wrapAll, zip_cons_cons, mapM_cons, encodeHops]
    cases keys with
    | nil =>
      -- the last hop names no key
      rw [map_cons, nil_append, cons.injEq, map_eq_nil_iff] at next
      rw [next.2]
      rfl
    | cons key keys =>
      rw [map_cons, cons_append, cons.injEq] at next
      rw [next.1, ih next.2]
      rfl

def garbage (random : Random) (topHop : CryptData) : CryptData := ⟨(random topHop.data.length).val⟩

/-- Shifting a route is peeling its hops. -/
lemma shift_of_peel (peeled : peel (hopScheme hopCodec cryptdeOf originator) key (garbage random) hops =
      some (result, rest)) : Route.shift hopCodec (cryptdeOf key) random ⟨hops⟩ = (result, ⟨rest⟩) := by
  cases hops with
  | nil => cases peeled
  | cons topHop hops =>
    simp only [peel, hopScheme] at peeled
    simp only [Route.shift]
    split at peeled
    · next hop decoded =>
      cases peeled
      rw [decoded]
      rfl
    · next e failed =>
      cases peeled
      rw [failed]

lemma shifts_of_peelAll (peeled : peelAll (hopScheme hopCodec cryptdeOf originator)
      (nodes.map fun node => (node.1, garbage node.2)) hops = some (items, rest)) :
    Route.shifts hopCodec cryptdeOf nodes ⟨hops⟩ = .ok (items, ⟨rest⟩) := by
  induction nodes generalizing hops items with
  | nil =>
    cases peeled
    rfl
  | cons node nodes ih =>
    simp only [map_cons, peelAll] at peeled
    split at peeled
    · next hop later top =>
      obtain ⟨⟨laterItems, last⟩, laterPeeled, same⟩ := Option.map_eq_some_iff.mp peeled
      cases same
      simp only [Route.shifts, shift_of_peel top, ih laterPeeled, ok_bind, pure_eq_ok]
    · cases peeled

lemma validateRouteSegments_eq_none (validated : validateRouteSegments overLeg (some back) = none) :
    back.keys.head? = overLeg.keys.getLast? := by
  simp only [validateRouteSegments] at validated
  split at validated
  · cases validated
  · split at validated
    · cases validated
    · split at validated
      · cases validated
      · next meets => exact not_not.mp meets

lemma visitedKeys_eq_cons (overLong : 2 ≤ overLeg.keys.length) :
    visitedKeys overLeg back = overLeg.keys.headD emptyKey :: (visitedKeys overLeg back).tail := by
  match keys : overLeg.keys, overLong with
  | first :: second :: rest, _ => simp [visitedKeys, keys]

section

variable {keccak256 : Bytes → Bytes} {consumingWalletOpt : Option Wallet}
  {contractAddressOpt : Option Address} {overLeg back : RouteSegment} {returnRouteId : UInt32}
  {route : Route}

lemma roundTrip_eq_ok
    (built : roundTrip keccak256 hopCodec idCodec consumingWalletOpt contractAddressOpt overLeg back
      cryptde returnRouteId = .ok (.ok route)) :
    back.keys.head? = overLeg.keys.getLast? ∧ ∃ overHops hops hopsEnc idEnc,
      overSegment keccak256 consumingWalletOpt contractAddressOpt false overLeg.keys overLeg.recipient =
        .ok overHops ∧
      backSegment keccak256 consumingWalletOpt contractAddressOpt (some back) overLeg.recipient overHops =
        .ok hops ∧
      encodeHops hopCodec cryptde (overLeg.keys.headD emptyKey) hops = .ok hopsEnc ∧
      encodex idCodec cryptde cryptde.publicKey returnRouteId = .ok idEnc ∧
      route = ⟨hopsEnc ++ [idEnc]⟩ := by
  simp only [roundTrip, construct] at built
  split at built
  · cases built
  · next validated =>
    refine ⟨validateRouteSegments_eq_none validated, ?_⟩
    obtain ⟨overHops, overMade, rest⟩ := ok_of_bind built
    obtain ⟨hops, backMade, rest⟩ := ok_of_bind rest
    simp only [hopsToRoute] at rest
    split at rest
    · cases rest
    · next hopsEnc encoded =>
      obtain ⟨idEnc, encrypted, returned⟩ := ok_of_bind rest
      cases returned
      refine ⟨overHops, hops, hopsEnc, idEnc, overMade, backMade, encoded, ?_, rfl⟩
      simp only [encryptReturnRouteId] at encrypted
      split at encrypted
      · next encoded =>
        cases encrypted
        exact encoded
      · cases encrypted

/-- Where a package is after some Nodes have shifted its route: nothing tells how many there were,
the next Node can go on and no other, and the originator finds the id at the end. -/
structure OnTheWay (hopCodec : Codec LiveHop) (idCodec : Codec UInt32)
    (cryptdeOf : PublicKey → CryptDE) (valid : PublicKey → Prop) (originator : PublicKey)
    (returnRouteId : UInt32) (route : Route) (remaining : List PublicKey) (now : Route) : Prop where
  slots : now.hops.length = route.hops.length
  others : ∀ key ∈ remaining.head?, ∀ other, valid other → other ≠ key → ∀ random,
    ∃ e, (now.shift hopCodec (cryptdeOf other) random).1 = .error e
  arrived : remaining = [] → now.id idCodec (cryptdeOf originator) = .ok returnRouteId

lemma onTheWay_of_layers (scheme : PublicKeyScheme cryptdeOf valid) (validOriginator : valid originator)
    (validKeys : ∀ key ∈ remaining, valid key) (sameLength : remaining.length = hops.length)
    (wrapped : wrapAll (hopScheme hopCodec cryptdeOf originator) (remaining.zip hops) = .ok top)
    (idEncoded : encodex idCodec (cryptdeOf originator) (cryptdeOf originator).publicKey
      returnRouteId = .ok idEnc) (slots : (top ++ [idEnc] ++ trash).length = route.hops.length) :
    OnTheWay hopCodec idCodec cryptdeOf valid originator returnRouteId route remaining
      ⟨top ++ [idEnc] ++ trash⟩ := by
  refine ⟨slots, ?_, ?_⟩
  · intro key isNext other validOther different random
    match remaining, hops, sameLength with
    | next :: remaining, hop :: hops, _ =>
      cases isNext
      obtain ⟨e, rest, fails⟩ := peel_other_key (hopScheme_correct scheme originator)
        (validKeys key mem_cons_self) validOther different wrapped (garbage random)
        ([idEnc] ++ trash)
      rw [← append_assoc] at fails
      exact ⟨e, by rw [shift_of_peel fails]⟩
  · rintro rfl
    obtain rfl : top = [] := eq_nil_of_length_eq_zero (length_of_wrapAll wrapped)
    rw [scheme.publicKey validOriginator] at idEncoded
    simp only [Route.id, nil_append, singleton_append, decodex_encodex scheme validOriginator idEncoded]

/-- The Nodes of the over segment and then those of the back segment take off the hops of a round
trip, in order; each hop names the next key, is for the right component and is paid for at the key
that takes it off. -/
theorem round_trip_visits_keys (scheme : PublicKeyScheme cryptdeOf valid) {originator : PublicKey}
    (validKeys : ∀ key ∈ visitedKeys overLeg back, valid key)
    (overLong : 2 ≤ overLeg.keys.length) (backLong : 2 ≤ back.keys.length)
    (ends : back.keys.getLast? = some originator)
    (built : roundTrip keccak256 hopCodec idCodec consumingWalletOpt contractAddressOpt overLeg back
      (cryptdeOf originator) returnRouteId = .ok (.ok route)) :
    ∃ hops, HopsOf keccak256 consumingWalletOpt contractAddressOpt overLeg back hops ∧
      ∀ randoms : List Random, randoms.length = (visitedKeys overLeg back).length →
        ∀ count, ∃ now,
          route.shifts hopCodec cryptdeOf (((visitedKeys overLeg back).zip randoms).take count) =
            .ok (hops.take count, now) ∧
          OnTheWay hopCodec idCodec cryptdeOf valid originator returnRouteId route
            ((visitedKeys overLeg back).drop count) now := by
  obtain ⟨meets, overHops, hops, hopsEnc, idEnc, overMade, backMade, encoded, idEncoded, rfl⟩ :=
    roundTrip_eq_ok built
  have hopsOf := hopsOf_segments overLong backLong meets overMade backMade
  have sameLength := hopsOf.payers.length_eq
  have validOriginator : valid originator := validKeys originator (mem_append_right _ (mem_of_getLast? ends))
  have keys : ((visitedKeys overLeg back).zip hops).map Prod.fst = visitedKeys overLeg back :=
    map_fst_zip (by omega)
  have wrapped : wrapAll (hopScheme hopCodec cryptdeOf originator)
      ((visitedKeys overLeg back).zip hops) = .ok hopsEnc := by
    rw [← encoded, encodeHops_eq_wrapAll hopsOf.next, ← visitedKeys_eq_cons overLong]
  refine ⟨hops, hopsOf, fun randoms enough count => ?_⟩
  obtain ⟨top, trash, wrappedTop, lengths, peeled⟩ := peelAll_take
    (hopScheme_correct scheme originator) (fun item member => validKeys _ (of_mem_zip member).1)
    wrapped (randoms.map garbage) (by simp [enough, sameLength]) [idEnc] count
  rw [keys, map_snd_zip (by omega), zip_map_right, ← map_take] at peeled
  refine ⟨⟨top ++ [idEnc] ++ trash⟩, shifts_of_peelAll peeled, ?_⟩
  rw [zip, drop_zipWith] at wrappedTop
  refine onTheWay_of_layers scheme validOriginator ?_ (by simp [sameLength]) wrappedTop idEncoded ?_
  · exact fun key member => validKeys key (mem_of_mem_drop member)
  · simp only [length_append, length_singleton]
    omega

end

end

/-! ### A round trip over three Nodes -/

/-- A cipher that shows whom it is for. -/
def labelled (key : PublicKey) : CryptDE where
  publicKey := key
  encode other plain := .ok ⟨other.data ++ plain.data⟩
  decode crypt :=
    if crypt.data.take key.data.length = key.data then
      .ok ⟨crypt.data.drop key.data.length⟩
    else
      .error .openingFailed

lemma labelled_scheme : PublicKeyScheme labelled fun key => key.data.length = 1 where
  publicKey _ := rfl
  decodes := by
    simp [labelled]
  others := by
    rintro sender key other plain crypt validKey validOther different ⟨⟩
    refine ⟨.openingFailed, if_neg ?_⟩
    rw [validOther, ← validKey, take_left]
    intro same
    exact different (congrArg PublicKey.mk same.symm)

/-- Items are written as their places in a table. -/
def tableCodec {α : Type} [DecidableEq α] (table : List α) : Codec α where
  serialize item :=
    if item ∈ table then .ok ⟨replicate (table.idxOf item) 0⟩ else .error ⟨"unknown item"⟩
  deserialize plain :=
    match table[plain.data.length]? with
    | some item => .ok item
    | none => .error ⟨"no such place"⟩
  deserialize_serialize := by
    intro item data serialized
    split at serialized
    · next found =>
      cases serialized
      simp [getElem?_idxOf found]
    · cases serialized

def sampleWallet : Wallet := ⟨.secretKey ⟨5, fun digest => .ok ⟨27, BitVec.ofNat 256 digest.sum.toNat, 0⟩⟩⟩

def sampleHop (current : UInt8) (nextKey : PublicKey) (component : Component) : LiveHop :=
  ⟨nextKey, some ⟨5, ⟨27, BitVec.ofNat 256 current.toNat, 0⟩⟩, component⟩

def sampleHops : List LiveHop :=
  [sampleHop 1 ⟨[2]⟩ .hopper, sampleHop 2 ⟨[3]⟩ .hopper, sampleHop 3 ⟨[2]⟩ .proxyClient,
    sampleHop 2 ⟨[1]⟩ .hopper, sampleHop 1 emptyKey .proxyServer]

def sampleOver : RouteSegment := ⟨[⟨[1]⟩, ⟨[2]⟩, ⟨[3]⟩], .proxyClient⟩

def sampleBack : RouteSegment := ⟨[⟨[3]⟩, ⟨[2]⟩, ⟨[1]⟩], .proxyServer⟩

theorem sample_round_trip_visits_keys : ∃ route,
    roundTrip id (tableCodec sampleHops) (tableCodec [7]) (some sampleWallet) none sampleOver sampleBack
      (labelled ⟨[1]⟩) 7 = .ok (.ok route) ∧
    ∃ hops, HopsOf id (some sampleWallet) none sampleOver sampleBack hops ∧
      ∀ randoms : List Random, randoms.length = (visitedKeys sampleOver sampleBack).length →
        ∀ count, ∃ now,
          route.shifts (tableCodec sampleHops) labelled
              (((visitedKeys sampleOver sampleBack).zip randoms).take count) =
            .ok (hops.take count, now) ∧
          OnTheWay (tableCodec sampleHops) (tableCodec [7]) labelled (fun key => key.data.length = 1)
            ⟨[1]⟩ 7 route ((visitedKeys sampleOver sampleBack).drop count) now :=
  ⟨_, rfl, round_trip_visits_keys labelled_scheme (by decide) (by decide) (by decide) rfl rfl⟩

/-! ### What a shift leaves -/

/-- A shift that fails leaves the route as it was only if it was empty.  One that succeeds takes the first hop off
and appends a filler of its length. -/
theorem shift_leaves (hopCodec : Codec LiveHop) (cryptde : CryptDE) (random : Random) (route : Route) :
    (∀ e left, route.shift hopCodec cryptde random = (.error e, left) → (left = route ↔ route.hops = [])) ∧
      ∀ hop left, route.shift hopCodec cryptde random = (.ok hop, left) → ∃ topHop hops filler,
        route.hops = topHop :: hops ∧ left.hops = hops ++ [filler] ∧ filler.data.length = topHop.data.length := by
  obtain ⟨hops⟩ := route
  unfold Route.shift
  cases hops with
  | nil => simp
  | cons topHop hops =>
    cases decoded : decodex hopCodec cryptde topHop with
    | error e => simp [decoded]
    | ok nextHop => simp [decoded, (random topHop.data.length).property]

/-- A hop that does not decode is lost: the second attempt sees another route. -/
theorem undecodable_hop_is_lost :
    ∃ (random : Random) (e : CodexError), Route.shift (tableCodec sampleHops) (labelled ⟨[1]⟩) random
      ⟨[⟨[9]⟩, ⟨[8]⟩]⟩ = (.error e, ⟨[⟨[8]⟩]⟩) :=
  ⟨zeros, _, rfl⟩

end PulseMesh.SubLib
