import PulseMesh.Gossip.Outcomes

/-!
# Gossip that is not accepted

Gossip can be ignored, it can fail, and its sender can be banned.  The database is then what it was
before, although the handlers change it step by step.  For standard gossip the verdict says exactly
whether the database has changed.
-/

namespace PulseMesh.Gossip

open Machine SubLib Neighborhood

variable {env : Environment} {order : SetOrder} {now : Clock} {metadata : NeighborhoodMetadata}
  {db db' : NeighborhoodDatabase} {targets : PassTargets} {agrs : List AccessibleGossipRecord}
  {gossipSource : SocketAddr}

/-- The two databases have the same records, under the same keys and IP addresses. -/
structure SameContent (db db' : NeighborhoodDatabase) : Prop where
  thisNode : db.thisNode = db'.thisNode
  nodeByKey : db.nodeByKey = db'.nodeByKey
  keyByIp : db.keyByIp = db'.keyByIp

lemma Advances.changed_iff (advances : Advances (GossipChange env agrs) changed db db') :
    changed = true ↔ ¬ SameContent db' db := by
  cases changed with
  | false =>
    have same := advances.same rfl
    simp only [Bool.false_eq_true, false_iff, not_not]
    exact same ▸ ⟨rfl, rfl, rfl⟩
  | true =>
    simp only [true_iff]
    intro same
    obtain ⟨key, differs⟩ := changes_differ (advances.differs rfl)
    exact differs (congrFun same.nodeByKey key)

/-- Gossip that the handler of standard gossip has been found for. -/
lemma standard_accepted_iff (found : findHandler env db agrs gossipSource gossipHandlers =
      .ok (qualification, .standardGossipHandler))
    (accepted : acceptGossip env order now metadata db targets agrs gossipSource = .ok acceptance) :
    acceptance.handled.result = .accepted ↔ ¬ SameContent acceptance.handled.database db := by
  rw [acceptGossip, found, ok_bind] at accepted
  cases qualification with
  | matched =>
    obtain ⟨handled, handles, accepted⟩ := ok_of_bind accepted
    cases accepted
    obtain ⟨changed, advances, result, -⟩ := standardHandle_eq_ok (findHandler_eq_ok found) handles
    rw [← advances.changed_iff, result]
    cases changed <;> simp
  | unmatched => cases accepted
  | malformed reason =>
    cases accepted
    simp only [reduceCtorEq, false_iff, not_not]
    exact ⟨rfl, rfl, rfl⟩

theorem refused_gossip_has_no_effect {acceptance : Acceptance}
    (accepted : acceptGossip env order now metadata db targets agrs gossipSource = .ok acceptance) :
    (acceptance.handled.result.Refuses → acceptance.handled.database = db) ∧
      ∀ qualification, findHandler env db agrs gossipSource gossipHandlers =
          .ok (qualification, .standardGossipHandler) →
        (acceptance.handled.result = .accepted ↔ ¬ SameContent acceptance.handled.database db) := ⟨(acceptGossip_outcome accepted).refused, fun _ found => standard_accepted_iff found accepted⟩

/-! ### A Node that debuts and then has news -/

def sampleClock : Clock := ⟨sampleNow, ⟨0⟩⟩

def sampleMetadata : NeighborhoodMetadata := ⟨[], 3, none⟩

def sampleSource (label : UInt8) : SocketAddr := ⟨(sampleNodeAddr label).ipAddr, 1000⟩

/-- Gossip from a Node about itself. -/
def acceptOwnRecord (env : Environment) (db : NeighborhoodDatabase) (inner : NodeRecordInner)
    (label : UInt8) : Except Panic Acceptance :=
  acceptGossip env listedOrder sampleClock sampleMetadata db ∅
    [sampleAgr inner (some (sampleNodeAddr label))] (sampleSource label)

def metEnvironment : Environment :=
  sampleEnvironment [sampleInner 1 ⟨0, u32_zero⟩ [], sampleInner 1 ⟨1, u32_one⟩ [2]]

theorem news_of_a_neighbor : ∃ db debut news,
    NeighborhoodDatabase.new metEnvironment sampleNow sampleMode ⟨1⟩ = .ok db ∧
    acceptOwnRecord metEnvironment db earlyInner 2 = .ok debut ∧
    acceptOwnRecord metEnvironment debut.handled.database lateInner 2 = .ok news ∧
    findHandler metEnvironment debut.handled.database [sampleAgr lateInner (some (sampleNodeAddr 2))]
      (sampleSource 2) gossipHandlers = .ok (.matched, .standardGossipHandler) ∧
    (news.handled.result = .accepted ↔ ¬ SameContent news.handled.database debut.handled.database) := by
  refine ⟨_, _, _, rfl, rfl, rfl, rfl, ?_⟩
  exact (@refused_gossip_has_no_effect metEnvironment listedOrder sampleClock sampleMetadata _ ∅
    [sampleAgr lateInner (some (sampleNodeAddr 2))] (sampleSource 2) _ rfl).2 .matched rfl

end PulseMesh.Gossip
