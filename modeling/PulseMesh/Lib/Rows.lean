import PulseMesh.Lib.Machine

/-!
# Tables as lists of rows

A table is the list of its rows in scan order.  A query tests a row and builds a record from
every row it selects; both steps may fail, and the first failure ends the query.
-/

namespace PulseMesh.Rows

open Machine List

variable {ρ α κ ε : Type}

def queryMap (select : ρ → Except ε Bool) (create : ρ → Except ε α) : List ρ → Except ε (List α)
  | [] => .ok []
  | row :: rows => do
    if ← select row then
      let record ← create row
      let records ← queryMap select create rows
      return record :: records
    else
      queryMap select create rows

variable {select : ρ → Except ε Bool} {create : ρ → Except ε α} {test : ρ → Bool} {build : ρ → α}

/-- A query none of whose steps fails is a filter followed by a map. -/
lemma queryMap_ok (rows) (selects : ∀ row ∈ rows, select row = .ok (test row))
    (creates : ∀ row ∈ rows, create row = .ok (build row)) :
    queryMap select create rows = .ok ((rows.filter test).map build) := by
  induction rows with
  | nil => rfl
  | cons row rows ih =>
    rw [forall_mem_cons] at selects creates
    have rest := ih selects.2 creates.2
    cases selected : test row with
    | false => simp [queryMap, selects.1, selected, rest]
    | true => simp [queryMap, selects.1, creates.1, selected, rest]

variable {rows : List ρ} {records : List α}

/-- A query that returns has built its records from a selection of the rows, in order. -/
lemma queryMap_eq_ok (returned : queryMap select create rows = .ok records) :
    ∃ selected : List ρ, selected.Sublist rows ∧ (∀ row ∈ selected, select row = .ok true) ∧
      Forall₂ (fun row record => create row = .ok record) selected records := by
  induction rows generalizing records with
  | nil =>
    cases returned
    exact ⟨[], .slnil, fun row member => absurd member not_mem_nil, .nil⟩
  | cons row rows ih =>
    obtain ⟨chosen, tested, rest⟩ := ok_of_bind returned
    cases chosen with
    | false =>
      obtain ⟨selected, sub, passes, builds⟩ := ih rest
      exact ⟨selected, sub.cons _, passes, builds⟩
    | true =>
      obtain ⟨record, created, rest⟩ := ok_of_bind rest
      obtain ⟨others, queried, rest⟩ := ok_of_bind rest
      cases rest
      obtain ⟨selected, sub, passes, builds⟩ := ih queried
      exact ⟨row :: selected, sub.cons_cons _, forall_mem_cons.mpr ⟨tested, passes⟩, .cons created builds⟩

lemma queryMap_returns (selects : ∀ row ∈ rows, ∃ chosen, select row = .ok chosen)
    (creates : ∀ row ∈ rows, select row = .ok true → ∃ record, create row = .ok record) :
    ∃ records, queryMap select create rows = .ok records := by
  induction rows with
  | nil => exact ⟨[], rfl⟩
  | cons row rows ih =>
    rw [forall_mem_cons] at selects creates
    obtain ⟨records, rest⟩ := ih selects.2 creates.2
    obtain ⟨chosen, tested⟩ := selects.1
    cases chosen with
    | false => exact ⟨records, by simp [queryMap, tested, rest]⟩
    | true =>
      obtain ⟨record, created⟩ := creates.1 tested
      exact ⟨record :: records, by simp [queryMap, tested, created, rest]⟩

lemma mapM_eq_ok {f : ρ → Except ε α} :
    rows.mapM f = .ok records ↔ Forall₂ (fun row record => f row = .ok record) rows records := by
  induction rows generalizing records with
  | nil => cases records <;> simp [pure, Except.pure]
  | cons row rows ih =>
    simp only [mapM_cons, bind_eq_ok, ih, forall₂_cons_left_iff]
    constructor
    · rintro ⟨record, created, others, rest, built⟩
      cases built
      exact ⟨record, others, created, rest, rfl⟩
    · rintro ⟨record, others, created, rest, rfl⟩
      exact ⟨record, created, others, rest, rfl⟩

variable {key : ρ → κ}

/-- Rows of a table with a unique key are determined by their key. -/
lemma eq_of_key_eq (unique : (rows.map key).Nodup) {a b} (ha : a ∈ rows) (hb : b ∈ rows)
    (same : key a = key b) : a = b :=
  inj_on_of_nodup_map unique ha hb same

variable {row : ρ}

lemma filter_eq_singleton (nodup : rows.Nodup) (member : row ∈ rows) (passes : test row = true)
    (only : ∀ other ∈ rows, test other = true → other = row) : rows.filter test = [row] := by
  refine perm_singleton.mp
    ((perm_ext_iff_of_nodup (nodup.filter _) (nodup_singleton row)).mpr ?_)
  intro other
  rw [mem_filter, mem_singleton]
  constructor
  · rintro ⟨otherMember, tested⟩
    exact only other otherMember tested
  · rintro rfl
    exact ⟨member, passes⟩

/-- A key that is present selects its row alone. -/
lemma filter_key_eq_singleton [DecidableEq κ] (unique : (rows.map key).Nodup) (member : row ∈ rows) :
    rows.filter (fun other => decide (key other = key row)) = [row] := by
  refine filter_eq_singleton (Nodup.of_map key unique) member (decide_eq_true rfl) ?_
  intro other otherMember same
  exact eq_of_key_eq unique otherMember member (of_decide_eq_true same)

lemma eq_of_filter_eq_singleton {other} (only : rows.filter test = [row]) (member : other ∈ rows)
    (passes : test other = true) : other = row := by
  have inFilter : other ∈ rows.filter test := mem_filter.mpr ⟨member, passes⟩
  exact mem_singleton.mp (only ▸ inFilter)

/-- Distinct keys that are all present select as many rows as there are keys. -/
lemma countP_key_mem [DecidableEq κ] {keys : List κ} (unique : (rows.map key).Nodup) (distinct : keys.Nodup)
    (present : ∀ k ∈ keys, ∃ row ∈ rows, key row = k) :
    rows.countP (fun row => decide (key row ∈ keys)) = keys.length := by
  have selected : ((rows.filter fun row => decide (key row ∈ keys)).map key).Perm keys := by
    refine (perm_ext_iff_of_nodup (unique.sublist (filter_sublist.map key)) distinct).mpr ?_
    intro k
    simp only [mem_map, mem_filter, decide_eq_true_eq]
    constructor
    · rintro ⟨row, ⟨-, member⟩, rfl⟩
      exact member
    · intro member
      obtain ⟨row, rowMember, rfl⟩ := present k member
      exact ⟨row, ⟨rowMember, member⟩, rfl⟩
  rw [countP_eq_length_filter, ← selected.length_eq, length_map]

/-- Dropping rows is a filter. -/
lemma filterMap_drop {dropped} [DecidablePred dropped] {keep}
    (opposite : ∀ row ∈ rows, keep row = true ↔ ¬ dropped row) :
    rows.filterMap (fun row => if dropped row then none else some row) = rows.filter keep := by
  rw [← filterMap_eq_filter]
  refine filterMap_congr fun row member => ?_
  by_cases gone : dropped row <;> simp [Option.guard, opposite row member, gone]

/-- A filter does not see a change of rows it passes over before and after. -/
lemma filter_map_of_fixed {change} (fixed : ∀ row ∈ rows, test row = true → change row = row)
    (outside : ∀ row ∈ rows, test row = false → test (change row) = false) :
    (rows.map change).filter test = rows.filter test := by
  have sameTest : ∀ row ∈ rows, (test ∘ change) row = test row := by
    intro row member
    cases tested : test row with
    | true => rw [Function.comp_apply, fixed row member tested, tested]
    | false => exact outside row member tested
  rw [filter_map, filter_congr sameTest]
  refine (map_congr_left fun row member => ?_).trans (map_id _)
  exact fixed row (mem_of_mem_filter member) (of_mem_filter member)

/-- Two filters of the same rows agree where the records they build agree. -/
lemma map_filter_eq_iff (injective : ∀ a ∈ rows, ∀ b ∈ rows, build a = build b → a = b) (p q : ρ → Bool) :
    (rows.filter p).map build = (rows.filter q).map build ↔ ∀ row ∈ rows, p row = q row := by
  have one_way : ∀ p q : ρ → Bool, (rows.filter p).map build = (rows.filter q).map build →
      ∀ row ∈ rows, p row = true → q row = true := by
    intro p q same row member selected
    have built : build row ∈ (rows.filter q).map build := by
      rw [← same]
      exact mem_map_of_mem (mem_filter.mpr ⟨member, selected⟩)
    obtain ⟨other, otherMember, equal⟩ := mem_map.mp built
    rw [mem_filter] at otherMember
    rw [← injective other otherMember.1 row member equal]
    exact otherMember.2
  constructor
  · intro same row member
    rw [Bool.eq_iff_iff]
    exact ⟨one_way p q same row member, one_way q p same.symm row member⟩
  · intro agree
    rw [filter_congr agree]

/-! ### Row by row -/

variable {β γ : Type} {R : α → β → Prop} {as : List α} {bs : List β}

lemma forall₂_comp {S : β → γ → Prop} {T} (compose : ∀ a b c, R a b → S b c → T a c) {cs}
    (first : Forall₂ R as bs) (second : Forall₂ S bs cs) : Forall₂ T as cs := by
  induction first generalizing cs with
  | nil =>
    cases second
    exact .nil
  | cons related _ ih =>
    cases second with
    | cons related' rest => exact .cons (compose _ _ _ related related') (ih rest)

section

variable (related : List.Forall₂ R as bs)
include related

lemma forall₂_mem_right {b} (member : b ∈ bs) : ∃ a ∈ as, R a b := by
  induction related with
  | nil => cases member
  | cons head _ ih =>
    rcases mem_cons.mp member with rfl | member
    · exact ⟨_, mem_cons_self, head⟩
    · obtain ⟨a, aMember, related⟩ := ih member
      exact ⟨a, mem_cons_of_mem _ aMember, related⟩

lemma forall₂_mem_left {a} (member : a ∈ as) : ∃ b ∈ bs, R a b := forall₂_mem_right related.flip member

/-- Rows that are told apart by what they are related to. -/
lemma nodup_of_forall₂ (nodup : as.Nodup) (apart : ∀ a ∈ as, ∀ a' ∈ as, ∀ b, R a b → R a' b → a = a') :
    bs.Nodup := by
  induction related with
  | nil => exact nodup_nil
  | cons head rest ih =>
    rw [nodup_cons] at nodup ⊢
    refine ⟨?_, ih nodup.2 fun a member a' member' =>
      apart a (mem_cons_of_mem _ member) a' (mem_cons_of_mem _ member')⟩
    intro again
    obtain ⟨a, member, related⟩ := forall₂_mem_right rest again
    have same := apart _ mem_cons_self a (mem_cons_of_mem _ member) _ head related
    exact nodup.1 (same ▸ member)

lemma map_eq_of_forall₂ {f : α → γ} {g} (same : ∀ a b, R a b → g b = f a) : bs.map g = as.map f := by
  induction related with
  | nil => rfl
  | cons head _ ih => rw [map_cons, map_cons, ih, same _ _ head]

end

/-- What is related to two lists in a row comes in two parts. -/
lemma forall₂_append_left {first second} (related : Forall₂ R (first ++ second) bs) :
    ∃ bs₁ bs₂, bs = bs₁ ++ bs₂ ∧ Forall₂ R first bs₁ ∧ Forall₂ R second bs₂ :=
  ⟨bs.take first.length, bs.drop first.length, (take_append_drop _ _).symm,
    (forall₂_take_append bs first second related.flip).flip, (forall₂_drop_append bs first second related.flip).flip⟩

lemma map_snd_zip_sublist (others : List α) (rows : List ρ) :
    ((others.zip rows).map Prod.snd).Sublist rows := by
  induction rows generalizing others with
  | nil => simp
  | cons row rows ih =>
    cases others with
    | nil => simp
    | cons other others => exact (ih others).cons_cons row

/-- Sums of nonnegative columns over fewer rows are smaller. -/
lemma sum_map_le_of_sublist {others : List ρ} {column : ρ → Int} (nonneg : ∀ row, 0 ≤ column row)
    (sub : rows.Sublist others) : (rows.map column).sum ≤ (others.map column).sum := by
  refine (sub.map column).sum_le_sum ?_
  intro value member
  obtain ⟨row, -, rfl⟩ := mem_map.mp member
  exact nonneg row

lemma sum_map_eraseIdx (column : ρ → Int) {index} (found : rows[index]? = some row) :
    (rows.map column).sum = column row + ((rows.eraseIdx index).map column).sum := by
  obtain ⟨inside, rfl⟩ := List.getElem?_eq_some_iff.mp found
  exact ((getElem_cons_eraseIdx_perm inside).map column).sum_eq.symm

end PulseMesh.Rows
