import PulseMesh.Gossip.Database
import PulseMesh.Lib.Runs

/-!
# The index by IP address

The index is kept by hand: a new record is indexed, a record that loses its address or is removed is
not.  It never leads to a Node that is not there or has another address, whatever happens.  It leads to
every Node that has an address as long as no two records claim one IP address, and no record gets its
address by an update: an update changes the record, but not the index.
-/

namespace PulseMesh.Gossip

open Machine SubLib Runs NodeRecord Function Option Index

def NodeRecord.ipOpt (record : NodeRecord) : Option IpAddr :=
  record.metadata.nodeAddrOpt.map NodeAddr.ipAddr

lemma NodeRecord.map_ipAddr_nodeAddrOpt (record : NodeRecord) :
    record.nodeAddrOpt.map NodeAddr.ipAddr = record.ipOpt := by
  simp only [nodeAddrOpt, ipOpt, map_map]
  rfl

namespace NeighborhoodDatabase

variable {db : NeighborhoodDatabase} {key : PublicKey} {record : NodeRecord} {ip : IpAddr}
  {row : Option NodeRecord}

/-! ### The index after a change -/

lemma keyByIp_unindex :
    (db.unindex record.nodeAddrOpt).keyByIp ip = some key ↔
      record.ipOpt ≠ some ip ∧ db.keyByIp ip = some key := by
  rw [← map_ipAddr_nodeAddrOpt]
  cases record.nodeAddrOpt with
  | none => simp
  | some nodeAddr =>
    rw [keyByIp_unindex_some]
    by_cases same : ip = nodeAddr.ipAddr
    · simp [same]
    · simp [update_of_ne same, Ne.symm same]

lemma keyByIp_addArbitraryNode :
    (db.addArbitraryNode record).keyByIp ip = some key ↔
      if record.ipOpt = some ip then key = record.publicKey else db.keyByIp ip = some key := by
  rw [← map_ipAddr_nodeAddrOpt, addArbitraryNode]
  cases record.nodeAddrOpt with
  | none => simp
  | some nodeAddr =>
    rw [keyByIp_index]
    by_cases same : ip = nodeAddr.ipAddr
    · simp [same, eq_comm]
    · simp [update_of_ne same, Ne.symm same]

/-! ### What always holds -/

/-- Every record is stored under its key, and the index leads to records with the IP address. -/
structure WellIndexed (db : NeighborhoodDatabase) : Prop where
  keyed : ∀ key record, db.nodeByKey key = some record → record.publicKey = key
  sound : Index.Sound NodeRecord.ipOpt db.nodeByKey db.keyByIp

lemma keyed_update (keyed : ∀ key record, rows key = some record → record.publicKey = key)
    (under : ∀ record, row = some record → record.publicKey = key) :
    ∀ k record, update rows key row k = some record → record.publicKey = k := by
  intro k record found
  by_cases same : k = key
  · subst same
    exact under record (by simpa using found)
  · rw [update_of_ne same] at found
    exact keyed k record found

lemma wellIndexed_empty (thisNode) : WellIndexed ⟨thisNode, ∅, ∅⟩ where
  keyed := by
    intro key record found
    simp [nodeByKey] at found
  sound := by
    intro ip key leads
    simp [keyByIp] at leads

namespace WellIndexed

variable (well : WellIndexed db)
include well

/-- A record may get an address, but it may not lose or change it this way. -/
lemma store (under : record.publicKey = key)
    (kept : ∀ ip, (db.nodeByKey key).bind ipOpt = some ip → record.ipOpt = some ip) :
    WellIndexed (db.store key record) where
  keyed := by
    rw [nodeByKey_store]
    exact keyed_update well.keyed fun _ found => some.inj found ▸ under
  sound := by
    rw [nodeByKey_store]
    exact sound_update well.sound (fun ip leads => kept ip (well.sound ip key leads))
      fun _ _ _ leads => leads

lemma addArbitraryNode (fresh : db.nodeByKey record.publicKey = none) :
    WellIndexed (db.addArbitraryNode record) where
  keyed := by
    rw [nodeByKey_addArbitraryNode]
    exact keyed_update well.keyed fun _ found => some.inj found ▸ rfl
  sound := by
    rw [nodeByKey_addArbitraryNode]
    refine sound_update well.sound ?_ ?_
    · intro ip leads
      rw [keyByIp_addArbitraryNode] at leads
      split at leads
      next claims => exact claims
      -- an old entry cannot lead to a Node that was not there
      next =>
        have stale := well.sound ip _ leads
        simp [fresh] at stale
    · intro ip k other leads
      rw [keyByIp_addArbitraryNode] at leads
      split at leads
      · exact absurd leads other
      · exact leads

/-- The only entry that has led to the Node is the one under its address. -/
lemma keyByIp_unindex_ne (found : db.nodeByKey key = some record) (ip) :
    (db.unindex record.nodeAddrOpt).keyByIp ip ≠ some key := by
  intro leads
  obtain ⟨elsewhere, leads⟩ := keyByIp_unindex.mp leads
  have claimed := well.sound ip key leads
  rw [found] at claimed
  exact elsewhere claimed

lemma sound_unindex (found : db.nodeByKey key = some record) (row) :
    Index.Sound ipOpt (update db.nodeByKey key row) (db.unindex record.nodeAddrOpt).keyByIp :=
  sound_update well.sound (fun ip leads => absurd leads (well.keyByIp_unindex_ne found ip))
    fun _ _ _ leads => (keyByIp_unindex.mp leads).2

lemma withoutAddress (found : db.nodeByKey key = some record) :
    WellIndexed (db.withoutAddress key record) where
  keyed := by
    rw [nodeByKey_withoutAddress]
    refine keyed_update well.keyed ?_
    rintro _ ⟨⟩
    exact well.keyed key record found
  sound := by
    rw [nodeByKey_withoutAddress, NeighborhoodDatabase.withoutAddress, keyByIp_store_unindex]
    exact well.sound_unindex found _

lemma removeNode (key) : WellIndexed (db.removeNode key) where
  keyed := by
    rw [nodeByKey_removeNode]
    exact keyed_update well.keyed fun _ found => by cases found
  sound := by
    rw [nodeByKey_removeNode, keyByIp_removeNode]
    cases found : db.nodeByKey key with
    | none =>
      refine sound_update well.sound ?_ fun _ _ _ leads => leads
      intro ip leads
      have claimed := well.sound ip key leads
      simp [found] at claimed
    | some record => exact well.sound_unindex found none

lemma removeNodes (keys : List PublicKey) :
    WellIndexed (keys.foldl NeighborhoodDatabase.removeNode db) := by
  induction keys generalizing db with
  | nil => exact well
  | cons key keys ih => exact ih (well.removeNode key)

lemma newPublicIp (renewed : db.newPublicIp ip = .ok db') : WellIndexed db' := by
  obtain ⟨record, oldNodeAddr, found, addressed, rfl⟩ := newPublicIp_eq_ok renewed
  have under : record.publicKey = db.thisNode := well.keyed _ _ found
  have renewedIp : (record.withNodeAddr (some (NodeAddr.new ip oldNodeAddr.ports))).ipOpt = some ip := rfl
  constructor
  · rw [nodeByKey_index, nodeByKey_unindex, nodeByKey_store]
    refine keyed_update well.keyed ?_
    rintro _ ⟨⟩
    exact under
  · rw [nodeByKey_index, nodeByKey_unindex, nodeByKey_store, keyByIp_index,
      keyByIp_store_unindex, under, ← addressed]
    -- the new entry is added to an index that no longer leads to this Node
    refine sound_update well.sound ?_ ?_
    · intro i leads
      by_cases same : i = ip
      · exact same ▸ renewedIp
      · rw [update_of_ne same] at leads
        exact absurd leads (well.keyByIp_unindex_ne found i)
    -- the other Nodes have lost the entry of the old address at most
    · intro i k other leads
      by_cases same : i = ip
      · rw [same, update_self] at leads
        exact absurd (some.inj leads).symm other
      · rw [update_of_ne same] at leads
        exact (keyByIp_unindex.mp leads).2

end WellIndexed

/-! ### When the index is exact -/

def IndexExact (db : NeighborhoodDatabase) : Prop :=
  Index.Exact NodeRecord.ipOpt db.nodeByKey db.keyByIp

/-- No record but the one under the key has the IP address. -/
def SoleClaim (db : NeighborhoodDatabase) (key : PublicKey) (ip : IpAddr) : Prop :=
  ∀ other record, other ≠ key → db.nodeByKey other = some record → record.ipOpt ≠ some ip

lemma soleClaim_iff : db.SoleClaim key ip ↔
    ∀ entry ∈ db.byPublicKey.entries, entry.1 ≠ key → entry.2.ipOpt ≠ some ip := by
  constructor
  · intro sole entry listed different
    exact sole entry.1 entry.2 different (AList.mem_lookup_iff.mpr listed)
  · intro sole other record different found
    exact sole ⟨other, record⟩ (AList.mem_lookup_iff.mp found) different

instance : Decidable (db.SoleClaim key ip) := decidable_of_iff _ soleClaim_iff.symm

lemma indexExact_empty (thisNode) : IndexExact ⟨thisNode, ∅, ∅⟩ := by
  intro ip key
  simp [keyByIp, nodeByKey]

lemma IndexExact.unindex (intact : IndexExact db) (found : db.nodeByKey key = some record)
    (silent : row.bind ipOpt = none) :
    Index.Exact ipOpt (update db.nodeByKey key row)
      (db.unindex record.nodeAddrOpt).keyByIp := by
  refine exact_update intact ?_ ?_
  · intro ip
    rw [silent, keyByIp_unindex, intact ip key, found]
    simp
  · intro ip k other
    rw [keyByIp_unindex]
    refine ⟨And.right, fun leads => ⟨fun claims => other ?_, leads⟩⟩
    exact intact.unshared ((intact ip k).mp leads) (by rw [found]; exact claims)

namespace IndexExact

variable (intact : IndexExact db)
include intact

/-- An address that comes by an update is in the record, but the index does not know it. -/
lemma store_iff (found : db.nodeByKey key = some record) :
    IndexExact (db.store key record') ↔ record'.ipOpt = record.ipOpt := by
  have before : ∀ ip, db.keyByIp ip = some key ↔ record.ipOpt = some ip := by
    intro ip
    rw [intact ip key, found]
    rfl
  constructor
  · intro intact'
    -- the index is still the old one, so that the two records have the same addresses in it
    have after : ∀ ip, db.keyByIp ip = some key ↔ record'.ipOpt = some ip := by
      intro ip
      have leads := intact' ip key
      rw [nodeByKey_store, update_self] at leads
      exact leads
    exact ext fun ip => (after ip).symm.trans (before ip)
  · intro same
    rw [IndexExact, nodeByKey_store, keyByIp_store]
    refine exact_update intact ?_ fun _ _ _ => .rfl
    intro ip
    rw [before ip, ← same]
    rfl

lemma withoutAddress (found : db.nodeByKey key = some record) :
    IndexExact (db.withoutAddress key record) := by
  rw [IndexExact, nodeByKey_withoutAddress, NeighborhoodDatabase.withoutAddress, keyByIp_store_unindex]
  exact intact.unindex found rfl

lemma removeNode (key) : IndexExact (db.removeNode key) := by
  rw [IndexExact, nodeByKey_removeNode, keyByIp_removeNode]
  cases found : db.nodeByKey key with
  | none =>
    refine exact_update intact ?_ fun _ _ _ => .rfl
    intro ip
    exact (intact ip key).trans (by simp [found])
  | some record => exact intact.unindex found rfl

lemma removeNodes (keys : List PublicKey) :
    IndexExact (keys.foldl NeighborhoodDatabase.removeNode db) := by
  induction keys generalizing db with
  | nil => exact intact
  | cons key keys ih => exact ih (intact.removeNode key)

/-- A second record with the same IP address takes the index entry of the first one. -/
lemma addArbitraryNode_iff (fresh : db.nodeByKey record.publicKey = none) :
    IndexExact (db.addArbitraryNode record) ↔
      ∀ ip, record.ipOpt = some ip → db.SoleClaim record.publicKey ip := by
  constructor
  · intro intact' ip claims other rival different found claims'
    -- in the new database both records have the IP address
    have first : ((db.addArbitraryNode record).nodeByKey other).bind ipOpt = some ip := by
      rw [nodeByKey_addArbitraryNode, update_of_ne different, found]
      exact claims'
    have second : ((db.addArbitraryNode record).nodeByKey record.publicKey).bind ipOpt = some ip := by
      rw [nodeByKey_addArbitraryNode, update_self]
      exact claims
    exact different (intact'.unshared first second)
  · intro sole
    rw [IndexExact, nodeByKey_addArbitraryNode]
    refine exact_update intact ?_ ?_
    · intro ip
      rw [keyByIp_addArbitraryNode]
      split
      next claims => exact iff_of_true rfl claims
      next silent =>
        refine iff_of_false (fun leads => ?_) silent
        have stale := (intact ip _).mp leads
        simp [fresh] at stale
    · intro ip k other
      rw [keyByIp_addArbitraryNode]
      split
      next claims =>
        refine iff_of_false other fun leads => ?_
        obtain ⟨rival, found, claims'⟩ := bind_eq_some_iff.mp ((intact ip k).mp leads)
        exact sole ip claims k rival other found claims'
      · rfl

lemma newPublicIp_iff (well : WellIndexed db) (renewed : db.newPublicIp ip = .ok db') :
    IndexExact db' ↔ db.SoleClaim db.thisNode ip := by
  obtain ⟨record, oldNodeAddr, found, addressed, rfl⟩ := newPublicIp_eq_ok renewed
  have under : record.publicKey = db.thisNode := well.keyed _ _ found
  rw [IndexExact, nodeByKey_index, nodeByKey_unindex, nodeByKey_store, keyByIp_index,
    keyByIp_store_unindex, under, ← addressed]
  constructor
  · intro intact' other rival different rivalFound claims
    refine different (intact'.unshared (i := ip) ?_ ?_)
    · rw [update_of_ne different, rivalFound]
      exact claims
    · rw [update_self]
      rfl
  · intro sole
    refine exact_update intact ?_ ?_
    · intro i
      by_cases same : i = ip
      · simp [same, withNodeAddr, ipOpt]
      · rw [update_of_ne same]
        refine iff_of_false (well.keyByIp_unindex_ne found i) ?_
        simp [withNodeAddr, ipOpt, Ne.symm same]
    · intro i k other
      by_cases same : i = ip
      · rw [same, update_self]
        refine iff_of_false (fun leads => other (some.inj leads).symm) fun leads => ?_
        obtain ⟨rival, rivalFound, claims⟩ := bind_eq_some_iff.mp ((intact ip k).mp leads)
        exact sole k rival other rivalFound claims
      · rw [update_of_ne same, keyByIp_unindex]
        refine ⟨And.right, fun leads => ⟨fun claims => other ?_, leads⟩⟩
        exact intact.unshared ((intact i k).mp leads) (by rw [found]; exact claims)

end IndexExact

end NeighborhoodDatabase

/-! ### Runs of the database -/

open NeighborhoodDatabase

inductive DatabaseStep where
  | addNode (record : NodeRecord)
  | addHalfNeighbor (now : U32) (key : PublicKey)
  | removeNeighbor (key : PublicKey)
  | removeNode (key : PublicKey)
  | cullDeadNodes (now : U32)
  | update (now : U32) (agr : AccessibleGossipRecord)
  | newPublicIp (publicIp : IpAddr)

section

variable (env : Environment)

/-- The operations that change the database; a refused one leaves it as it is. -/
def databaseStep (db : NeighborhoodDatabase) : DatabaseStep → Except Panic NeighborhoodDatabase
  | .addNode record =>
    match db.addNode record with
    | .ok (_, changed) => .ok changed
    | .error _ => .ok db
  | .addHalfNeighbor now key =>
    match db.addHalfNeighbor now key with
    | .ok (_, changed) => .ok changed
    | .error _ => .ok db
  | .removeNeighbor key => do
    match ← db.removeNeighbor env key with
    | .ok (_, changed) => return changed
    | .error _ => return db
  | .removeNode key => .ok (db.removeNode key)
  | .cullDeadNodes now => db.cullDeadNodes env now
  | .update now agr =>
    match db.nodeByKey agr.inner.publicKey with
    | none => .ok db
    | some record =>
      match record.update env now agr with
      | .ok updated => .ok (db.store agr.inner.publicKey updated)
      | .error _ => .ok db
  | .newPublicIp publicIp => db.newPublicIp publicIp

/-- The changes that the index follows: nobody else has the IP address that a new record or this Node
claims, and an update brings no address. -/
def FollowedByIndex (db : NeighborhoodDatabase) : DatabaseStep → Prop
  | .addNode record =>
    (db.addNode record).isOk → ∀ ip ∈ record.ipOpt, db.SoleClaim record.publicKey ip
  | .update now agr =>
    ∀ record ∈ db.nodeByKey agr.inner.publicKey,
      ∀ updated ∈ (record.update env now agr).toOption, updated.ipOpt = record.ipOpt
  | .newPublicIp publicIp => db.SoleClaim db.thisNode publicIp
  | .addHalfNeighbor _ _ | .removeNeighbor _ | .removeNode _ | .cullDeadNodes _ => True

instance (db : NeighborhoodDatabase) (step : DatabaseStep) : Decidable (FollowedByIndex env db step) := by
  unfold FollowedByIndex
  split <;> infer_instance

end

section

variable {env : Environment} {db db' : NeighborhoodDatabase} {step : DatabaseStep}

lemma NodeRecord.ipOpt_of_updated (update : Updated agr record updated) (claims : record.ipOpt = some ip) :
    updated.ipOpt = some ip := by
  rcases update.nodeAddr with same | ⟨unknown, -⟩
  · rw [ipOpt, same]
    exact claims
  · simp [ipOpt, unknown] at claims

/-- What a removal of a neighbor leaves of the Node's own record. -/
lemma unlinked_record {root root' : NodeRecord} {neighbors : SortedSet PublicKey}
    (incremented : (root.withNeighbors neighbors).incrementVersion env = .ok root') :
    root'.publicKey = root.publicKey ∧ root'.ipOpt = root.ipOpt := by
  obtain ⟨version, -, rfl⟩ := incrementVersion_eq_ok incremented
  exact ⟨rfl, rfl⟩

variable (db) in
/-- A change of the database and what the index needs to follow it. -/
inductive IndexedChange : NeighborhoodDatabase → Prop → Prop where
  | nothing : IndexedChange db True
  | added {record : NodeRecord} (fresh : db.nodeByKey record.publicKey = none) :
    IndexedChange (db.addArbitraryNode record)
      (∀ ip, record.ipOpt = some ip → db.SoleClaim record.publicKey ip)
  | stored {key : PublicKey} {record record' : NodeRecord} (found : db.nodeByKey key = some record)
    (sameKey : record'.publicKey = record.publicKey)
    (kept : ∀ ip, record.ipOpt = some ip → record'.ipOpt = some ip) :
    IndexedChange (db.store key record') (record'.ipOpt = record.ipOpt)
  | unaddressed {key : PublicKey} {record : NodeRecord} (found : db.nodeByKey key = some record) :
    IndexedChange (db.withoutAddress key record) True
  | unlinked {key : PublicKey} {record root root' : NodeRecord} (found : db.nodeByKey key = some record)
    (rooted : (db.withoutAddress key record).nodeByKey db.thisNode = some root)
    (sameKey : root'.publicKey = root.publicKey) (sameIp : root'.ipOpt = root.ipOpt) :
    IndexedChange ((db.withoutAddress key record).store db.thisNode root') True
  | removed (keys : List PublicKey) : IndexedChange (keys.foldl removeNode db) True
  | renewed {publicIp : IpAddr} {db' : NeighborhoodDatabase}
    (renewed : db.newPublicIp publicIp = .ok db') : IndexedChange db' (db.SoleClaim db.thisNode publicIp)

/-- What a step can do. -/
lemma databaseStep_change (stepped : databaseStep env db step = .ok db') :
    ∃ condition, IndexedChange db db' condition ∧ (condition ↔ FollowedByIndex env db step) := by
  cases step with
  | addNode record =>
    simp only [databaseStep] at stepped
    split at stepped
    next key changed added =>
      cases stepped
      obtain ⟨-, fresh, -, rfl⟩ := addNode_eq_ok.mp added
      exact ⟨_, .added fresh, fun sole _ => sole, fun sole => sole (by rw [added]; rfl)⟩
    next refused =>
      cases stepped
      refine ⟨True, .nothing, iff_of_true trivial fun added => ?_⟩
      rw [refused] at added
      cases added
  | addHalfNeighbor now key =>
    simp only [databaseStep] at stepped
    split at stepped
    next changed result added =>
      cases stepped
      cases changed with
      | false =>
        rw [addHalfNeighbor_eq_false added]
        exact ⟨True, .nothing, .rfl⟩
      | true =>
        obtain ⟨root, found, -, -, -, rfl⟩ := addHalfNeighbor_eq_true added
        -- a new link does not touch the address of the Node itself
        exact ⟨_, .stored found rfl fun _ claims => claims, iff_of_true rfl trivial⟩
    · cases stepped
      exact ⟨True, .nothing, .rfl⟩
  | removeNeighbor key =>
    obtain ⟨result, removed, stepped⟩ := ok_of_bind stepped
    split at stepped
    next changed after =>
      cases stepped
      obtain ⟨record, root, found, rooted, ⟨-, -, rfl⟩ | ⟨root', incremented, -, -, rfl⟩⟩ :=
        removeNeighbor_eq_ok removed
      · exact ⟨True, .unaddressed found, .rfl⟩
      · obtain ⟨sameKey, sameIp⟩ := unlinked_record incremented
        exact ⟨True, .unlinked found rooted sameKey sameIp, .rfl⟩
    · cases stepped
      exact ⟨True, .nothing, .rfl⟩
  | removeNode key =>
    cases stepped
    exact ⟨True, .removed [key], .rfl⟩
  | cullDeadNodes now =>
    obtain ⟨root, toCull, -, rfl, -⟩ := cullDeadNodes_eq_ok stepped
    exact ⟨True, .removed toCull, .rfl⟩
  | update now agr =>
    simp only [databaseStep] at stepped
    split at stepped
    next unknown =>
      cases stepped
      exact ⟨True, .nothing, iff_of_true trivial fun record found => by simp [unknown] at found⟩
    next record found =>
      split at stepped
      next updated accepted =>
        cases stepped
        have update := update_eq_ok accepted
        refine ⟨_, .stored found update.publicKey_eq fun _ => ipOpt_of_updated update, ?_, ?_⟩
        · intro same record' found' updated' accepted'
          cases found.symm.trans found'
          rw [accepted] at accepted'
          cases accepted'
          exact same
        · intro followed
          exact followed record found updated (by rw [accepted]; rfl)
      next refused =>
        cases stepped
        refine ⟨True, .nothing, iff_of_true trivial fun record' found' updated accepted => ?_⟩
        cases found.symm.trans found'
        rw [refused] at accepted
        cases accepted
  | newPublicIp publicIp => exact ⟨_, .renewed stepped, .rfl⟩

lemma IndexedChange.wellIndexed (change : IndexedChange db db' condition) (well : WellIndexed db) :
    WellIndexed db' := by
  cases change with
  | nothing => exact well
  | added fresh => exact well.addArbitraryNode fresh
  | stored found sameKey kept =>
    refine well.store (sameKey.trans (well.keyed _ _ found)) ?_
    intro ip claims
    rw [found] at claims
    exact kept ip claims
  | unaddressed found => exact well.withoutAddress found
  | unlinked found rooted sameKey sameIp =>
    have without := well.withoutAddress found
    refine without.store (sameKey.trans (without.keyed _ _ rooted)) ?_
    intro ip claims
    rw [rooted] at claims
    exact sameIp.trans claims
  | removed keys => exact well.removeNodes keys
  | renewed renewed => exact well.newPublicIp renewed

lemma IndexedChange.indexExact_iff (change : IndexedChange db db' condition) (well : WellIndexed db)
    (intact : IndexExact db) : IndexExact db' ↔ condition := by
  cases change with
  | nothing => exact iff_of_true intact trivial
  | added fresh => exact intact.addArbitraryNode_iff fresh
  | stored found => exact intact.store_iff found
  | unaddressed found => exact iff_of_true (intact.withoutAddress found) trivial
  | unlinked found rooted sameKey sameIp =>
    exact iff_of_true (((intact.withoutAddress found).store_iff rooted).mpr sameIp) trivial
  | removed keys => exact iff_of_true (intact.removeNodes keys) trivial
  | renewed renewed => exact intact.newPublicIp_iff well renewed

/-- The index leads from an IP address to the key of the record that has it, and nowhere else. -/
structure IndexIntact (db : NeighborhoodDatabase) : Prop where
  exact_ : ∀ ip key, db.keyByIp ip = some key ↔
    ∃ record, db.nodeByKey key = some record ∧ record.nodeAddrOpt.map NodeAddr.ipAddr = some ip
  nodeByIp : ∀ ip record, db.nodeByIp ip = some record ↔
    ∃ key, db.nodeByKey key = some record ∧ record.nodeAddrOpt.map NodeAddr.ipAddr = some ip

lemma indexIntact_iff : IndexIntact db ↔ IndexExact db := by
  constructor
  · intro intact ip key
    rw [intact.exact_ ip key, bind_eq_some_iff]
    simp only [map_ipAddr_nodeAddrOpt]
  · intro intact
    have leads : ∀ ip key, db.keyByIp ip = some key ↔
        ∃ record, db.nodeByKey key = some record ∧ record.ipOpt = some ip := fun ip key =>
      (intact ip key).trans bind_eq_some_iff
    simp only [← map_ipAddr_nodeAddrOpt] at leads
    refine ⟨leads, fun ip record => ?_⟩
    rw [NeighborhoodDatabase.nodeByIp, bind_eq_some_iff]
    constructor
    · rintro ⟨key, led, found⟩
      obtain ⟨record', found', claims⟩ := (leads ip key).mp led
      cases found.symm.trans found'
      exact ⟨key, found, claims⟩
    · rintro ⟨key, found, claims⟩
      exact ⟨key, (leads ip key).mpr ⟨record, found, claims⟩, found⟩

lemma new_eq_ok (created : NeighborhoodDatabase.new env now mode earningWallet = .ok db) :
    ∃ record, db = addArbitraryNode ⟨env.cryptde.publicKey, ∅, ∅⟩ record ∧
      record.publicKey = env.cryptde.publicKey ∧ record.inner.neighbors = ∅ := by
  obtain ⟨⟨signedGossip, signature⟩, -, created⟩ := ok_of_bind created
  cases created
  exact ⟨_, rfl, rfl, rfl⟩

theorem ip_index_intact_iff {now : U32} {mode : NeighborhoodMode} {earningWallet : Accountant.Wallet}
    (created : NeighborhoodDatabase.new env now mode earningWallet = .ok db)
    (steps : List DatabaseStep) :
    (∀ before after reached, steps = before ++ after →
      run (databaseStep env) db before = .ok reached → IndexIntact reached) ↔
        Along (databaseStep env)
          (fun db step => ∀ next, databaseStep env db step = .ok next → FollowedByIndex env db step)
          db steps := by
  simp only [indexIntact_iff]
  obtain ⟨record, rfl, -, -⟩ := new_eq_ok created
  have fresh : nodeByKey ⟨env.cryptde.publicKey, ∅, ∅⟩ record.publicKey = none := by simp [nodeByKey]
  refine always_iff_along ?_ ?_ ((wellIndexed_empty _).addArbitraryNode fresh) ?_
  · intro db step next well stepped
    obtain ⟨condition, change, -⟩ := databaseStep_change stepped
    exact change.wellIndexed well
  · intro db step next well intact stepped
    obtain ⟨condition, change, followed⟩ := databaseStep_change stepped
    exact (change.indexExact_iff well intact).trans followed
  · refine ((indexExact_empty _).addArbitraryNode_iff fresh).mpr ?_
    intro ip _ other rival _ found
    simp [nodeByKey] at found

end

/-! ### A Node whose address comes late -/

def sampleKey (label : UInt8) : PublicKey := ⟨[label]⟩

def sampleNodeAddr (label : UInt8) : NodeAddr := ⟨.v4 (BitVec.ofNat 32 label.toNat), [1000]⟩

def sampleInner (label : UInt8) (version : U32) (neighbors : List UInt8) : NodeRecordInner :=
  ⟨sampleKey label, ⟨BitVec.ofNat 160 label.toNat⟩, NeighborhoodMode.zeroRatePack,
    neighbors.foldr (fun neighbor keys => keys.insert (sampleKey neighbor)) ∅, true, true, version, none⟩

/-- A Node with the key 1 that can serialize what is in the table. -/
def sampleEnvironment (table : List NodeRecordInner) : Environment where
  profile := .debug
  cryptde :=
    { labelled (sampleKey 1) with
      sign := fun plain => .ok ⟨plain.data⟩
      verifySignature := fun plain signature _ => .ok (decide (signature.data = plain.data)) }
  innerCodec := tableCodec table
  findCountry _ := none
  displayIp _ := "an IP address"

def sampleMode : NeighborhoodMode := .standard (sampleNodeAddr 1) [] NeighborhoodMode.zeroRatePack

def sampleNow : U32 := ⟨1000, u32_thousand⟩

def sampleAgr (inner : NodeRecordInner) (nodeAddrOpt : Option NodeAddr) : AccessibleGossipRecord :=
  ⟨⟨[]⟩, ⟨[]⟩, nodeAddrOpt, inner⟩

def earlyInner : NodeRecordInner := sampleInner 2 ⟨0, u32_zero⟩ []

def lateInner : NodeRecordInner := sampleInner 2 ⟨1, u32_one⟩ []

def lonelyEnvironment : Environment := sampleEnvironment [sampleInner 1 ⟨0, u32_zero⟩ []]

theorem address_by_update_is_not_indexed : ∃ db reached,
    NeighborhoodDatabase.new lonelyEnvironment sampleNow sampleMode ⟨1⟩ = .ok db ∧
    run (databaseStep lonelyEnvironment) db
      [.addNode (NodeRecord.ofAgr lonelyEnvironment sampleNow (sampleAgr earlyInner none)),
        .update sampleNow (sampleAgr lateInner (some (sampleNodeAddr 2)))] = .ok reached ∧
    ¬ IndexIntact reached := by
  refine ⟨_, _, rfl, rfl, ?_⟩
  intro intact
  have leads := (intact.exact_ (.v4 2) (sampleKey 2)).mpr ⟨_, rfl, rfl⟩
  exact absurd leads (by decide)

/-- An address that comes with the record is indexed, until the Node is no longer a neighbor. -/
theorem sample_index_intact : ∃ db,
    NeighborhoodDatabase.new lonelyEnvironment sampleNow sampleMode ⟨1⟩ = .ok db ∧
    ∀ before after reached,
      [.addNode (NodeRecord.ofAgr lonelyEnvironment sampleNow
          (sampleAgr earlyInner (some (sampleNodeAddr 2)))),
        .addHalfNeighbor sampleNow (sampleKey 2), .update sampleNow (sampleAgr lateInner none),
        .newPublicIp (.v4 9), .removeNeighbor (sampleKey 2)] = before ++ after →
      run (databaseStep lonelyEnvironment) db before = .ok reached → IndexIntact reached := by
  refine ⟨_, rfl, (@ip_index_intact_iff _ _ sampleNow sampleMode ⟨1⟩ rfl _).mpr ?_⟩
  refine along_mono (fun _ _ followed _ _ => followed) ?_
  decide

end PulseMesh.Gossip
