import Overseer.Psychlo.Gates
import Overseer.Psychlo.Rounds
import Overseer.Library.Vouched

/-! # What the commits do to executions and decisions

`GateInv` ties the row of an execution to the decision of its gate. Every commit of the bridge
keeps it and keeps what is settled, the writes of a forward only when they find the decision
open or bring nothing that takes it back.
-/
namespace Overseer.Psychlo
open Overseer.Library Overseer.Agent

/-! ### Names -/

theorem toList_gateId (id : String) : (gateId id).toList = "roadex:external:".toList ++ id.toList := String.toList_append

theorem isGateId_gateId (id : String) : isGateId (gateId id) = true := by
  rw [isGateId,toList_gateId,List.isPrefixOf_iff_prefix]
  exact List.prefix_append _ _

theorem reconciliationOf_gateId (id : String) : reconciliationOf (gateId id) = id := by
  have hlen : "roadex:external:".toList.length = 16 := by decide
  have hdrop : ("roadex:external:".toList ++ id.toList).drop 16 = id.toList := by
    rw [← hlen]
    exact List.drop_left
  rw [reconciliationOf,if_pos (isGateId_gateId id),toList_gateId,hdrop,String.ofList_toList]

theorem gateId_injective {id id' : String} (h : gateId id = gateId id') : id = id' := by
  rw [← reconciliationOf_gateId id,h,reconciliationOf_gateId]

/-! ### The invariant -/

def refused : List String := ["rejected","expired"]

/-- The status that a receipt stands for. -/
def receiptStatus (receipt : Payload) : String := ((receipt.get? "status").map Json.text).getD "reconciled"

/-- The row of an execution whose decision is settled. -/
structure RowSettled (row : ExternalRow) (st : DecisionStatus) : Prop where
  told : row.receipt.get "decisionStatus" = .str st.value
  refusal : st ≠ .approved → row.status = st.value
  approval : st = .approved → row.status ∉ refused ∧ receiptStatus row.receipt ∉ refused

/-- A settled decision is the one the row of its execution tells of. -/
def Agrees (s : BridgeStore) (row : ExternalRow) : Prop := ∀ d dec, row.gateDecisionId = some d →
  s.decisions.get? d = some dec → dec.status ≠ .staged → RowSettled row dec.status

structure GateInv (s : BridgeStore) : Prop where
  named : ∀ id row d, s.external.get? id = some row → row.gateDecisionId = some d →
    d = gateId id ∧ (row.payload.get "explicitGate").truthy = true
  hashed : ∀ id row, s.external.get? id = some row → (row.receipt.get "decisionStatus").hashable = true
  anchored : ∀ id dec, s.decisions.get? (gateId id) = some dec →
    ∃ row, s.external.get? id = some row ∧ row.gateDecisionId = some (gateId id)
  agrees : ∀ id row, s.external.get? id = some row → Agrees s row

/-- Executions stay what they are of, and what is settled stays settled. -/
structure GateStep (s s' : BridgeStore) : Prop where
  rows : ∀ id row, s.external.get? id = some row → ∃ row', s'.external.get? id = some row' ∧
    row'.payload = row.payload ∧ row'.gateDecisionId = row.gateDecisionId
  decisions : ∀ d dec, s.decisions.get? d = some dec → dec.status ≠ .staged →
    ∃ dec', s'.decisions.get? d = some dec' ∧ dec'.status = dec.status

theorem GateStep.of_eq {s s' : BridgeStore} (he : s'.external = s.external) (hd : s'.decisions = s.decisions) : GateStep s s' where
  rows id row hrow := ⟨row,by rw [he,hrow],rfl,rfl⟩
  decisions d dec hdec _ := ⟨dec,by rw [hd,hdec],rfl⟩

theorem GateStep.trans {s s' s'' : BridgeStore} (h : GateStep s s') (h' : GateStep s' s'') : GateStep s s'' where
  rows id row hrow := by
    obtain ⟨row',hrow',hp,hg⟩ := h.rows id row hrow
    obtain ⟨row'',hrow'',hp',hg'⟩ := h'.rows id row' hrow'
    exact ⟨row'',hrow'',hp'.trans hp,hg'.trans hg⟩
  decisions d dec hdec hst := by
    obtain ⟨dec',hdec',heq⟩ := h.decisions d dec hdec hst
    obtain ⟨dec'',hdec'',heq'⟩ := h'.decisions d dec' hdec' (heq ▸ hst)
    exact ⟨dec'',hdec'',heq'.trans heq⟩

theorem GateInv.of_eq {s s' : BridgeStore} (h : GateInv s) (he : s'.external = s.external) (hd : s'.decisions = s.decisions) :
    GateInv s' where
  named id row d hrow := h.named id row d (by rw [← he,hrow])
  hashed id row hrow := h.hashed id row (by rw [← he,hrow])
  anchored id dec hdec := by
    rw [he]
    exact h.anchored id dec (by rw [← hd,hdec])
  agrees id row hrow d dec hgate hdec := h.agrees id row (by rw [← he,hrow]) d dec hgate (by rw [← hd,hdec])

/-! ### Changing a row -/

/-- Write over the row of an execution what keeps it to its decision. -/
theorem gate_setExternal {s : BridgeStore} (h : GateInv s) {id : String} {row row' : ExternalRow}
    (hrow : s.external.get? id = some row) (hp : row'.payload = row.payload) (hg : row'.gateDecisionId = row.gateDecisionId)
    (hh : (row'.receipt.get "decisionStatus").hashable = true) (ha : Agrees s row') :
    GateStep s { s with external := s.external.set id row' } ∧ GateInv { s with external := s.external.set id row' } := by
  constructor
  · constructor
    case rows =>
      intro id' r hr
      rw [Dict.get?_set]
      split
      · next hi =>
        subst hi
        obtain rfl : row = r := Option.some.inj (hrow.symm.trans hr)
        exact ⟨row',rfl,hp,hg⟩
      · exact ⟨r,hr,rfl,rfl⟩
    case decisions => exact fun d dec hdec _ => ⟨dec,hdec,rfl⟩
  · constructor
    case named =>
      intro id' r d hr hd
      rw [Dict.get?_set] at hr
      split at hr
      · next hi =>
        cases hr
        rw [hi,hp]
        exact h.named id row d hrow (hg ▸ hd)
      · exact h.named id' r d hr hd
    case hashed =>
      intro id' r hr
      rw [Dict.get?_set] at hr
      split at hr
      · cases hr
        exact hh
      · exact h.hashed id' r hr
    case anchored =>
      intro id' dec hdec
      obtain ⟨r,hr,hgate⟩ := h.anchored id' dec hdec
      rw [Dict.get?_set]
      split
      · next hi =>
        subst hi
        obtain rfl : row = r := Option.some.inj (hrow.symm.trans hr)
        exact ⟨row',rfl,hg.trans hgate⟩
      · exact ⟨r,hr,hgate⟩
    case agrees =>
      intro id' r hr
      rw [Dict.get?_set] at hr
      split at hr
      · cases hr
        exact ha
      · exact h.agrees id' r hr

/-- A change of the row that leaves receipt and status alone. -/
theorem gate_updateExternal {s : BridgeStore} (h : GateInv s) {id : String} {f : ExternalRow → ExternalRow}
    (hf : ∀ row, (f row).payload = row.payload ∧ (f row).gateDecisionId = row.gateDecisionId ∧ (f row).receipt = row.receipt ∧
      (f row).status = row.status) {s' : BridgeStore} (hrun : updateExternal id f s = .ok ((),s')) : GateStep s s' ∧ GateInv s' := by
  cases hrow : s.external.get? id with
  | none =>
    have hs : s' = s := by simpa [updateExternal,Tx.write,hrow] using hrun.symm
    rw [hs]
    exact ⟨.of_eq rfl rfl,h⟩
  | some row =>
    obtain ⟨hp,hg,hr,hst⟩ := hf row
    have hs : s' = { s with external := s.external.set id (f row) } := by simpa [updateExternal,Tx.write,hrow] using hrun.symm
    rw [hs]
    refine gate_setExternal h hrow hp hg (by rw [hr]; exact h.hashed id row hrow) ?_
    intro d dec hd hdec hnot
    have hsettled := h.agrees id row hrow d dec (hg ▸ hd) hdec hnot
    constructor
    · rw [hr]
      exact hsettled.told
    · rw [hst]
      exact hsettled.refusal
    · rw [hr,hst]
      exact hsettled.approval

/-! ### The writes of a forward -/

/-- What a forward brings does not take a settled decision back: it finds the decision open,
or approved, and then works from the receipt as it is and brings no other decision. -/
def ForwardAllowed (s : BridgeStore) (f : Forwarding) : Prop :=
  (∀ v, f.brought.get? "decisionStatus" = some v → v.hashable = true) ∧
  ∀ row d dec, s.external.get? f.reconciliationId = some row → row.gateDecisionId = some d → s.decisions.get? d = some dec →
    dec.status ≠ .staged → dec.status = .approved ∧ f.copy = row.receipt ∧
      (∀ v, f.brought.get? "decisionStatus" = some v → v = .str "approved") ∧
      ∀ v, f.brought.get? "status" = some v → v.text ∉ refused

theorem get?_merge (p q : Payload) (k : String) : (p.merge q.entries).get? k = (q.get? k).or (p.get? k) := by
  cases hq : q.get? k with
  | some v =>
    rw [Dict.get?_merge_of_mem p q.nodup ((Dict.mem_entries_iff q k v).mpr hq)]
    rfl
  | none =>
    have hnot : k ∉ q.entries.map Prod.fst := by
      intro hk
      obtain ⟨v,hv⟩ := (Dict.mem_keys_iff q k).mp hk
      rw [hq] at hv
      cases hv
    rw [Dict.get?_merge_of_notMem p k hnot]
    rfl

theorem Forwarding.hashable_receipt {f : Forwarding} (hc : (f.copy.get "decisionStatus").hashable = true)
    (hb : ∀ v, f.brought.get? "decisionStatus" = some v → v.hashable = true) :
    (f.receipt.get "decisionStatus").hashable = true := by
  unfold Payload.get Forwarding.receipt
  rw [get?_merge]
  cases hv : f.brought.get? "decisionStatus" with
  | some v => exact hb v hv
  | none => exact hc

theorem gate_writeForward {s : BridgeStore} (h : GateInv s) {f : Forwarding} {forwarded : Bool}
    (hc : (f.copy.get "decisionStatus").hashable = true) (hallowed : ForwardAllowed s f) {s' : BridgeStore}
    (hrun : updateExternal f.reconciliationId (·.forward f forwarded) s = .ok ((),s')) : GateStep s s' ∧ GateInv s' := by
  cases hrow : s.external.get? f.reconciliationId with
  | none =>
    have hs : s' = s := by simpa [updateExternal,Tx.write,hrow] using hrun.symm
    rw [hs]
    exact ⟨.of_eq rfl rfl,h⟩
  | some row =>
    have hs : s' = { s with external := s.external.set f.reconciliationId (row.forward f forwarded) } := by
      simpa [updateExternal,Tx.write,hrow] using hrun.symm
    rw [hs]
    refine gate_setExternal h hrow rfl rfl (f.hashable_receipt hc hallowed.1) ?_
    intro d dec hd hdec hnot
    obtain ⟨happroved,hcopy,hstatus,hother⟩ := hallowed.2 row d dec hrow hd hdec hnot
    have hsettled := h.agrees _ row hrow d dec hd hdec hnot
    have hquiet : receiptStatus f.receipt ∉ refused := by
      unfold receiptStatus Forwarding.receipt
      rw [get?_merge]
      cases hv : f.brought.get? "status" with
      | some v => exact hother v hv
      | none =>
        rw [hcopy]
        exact (hsettled.approval happroved).2
    constructor
    · change f.receipt.get "decisionStatus" = _
      unfold Payload.get Forwarding.receipt
      rw [get?_merge]
      cases hv : f.brought.get? "decisionStatus" with
      | some v =>
        rw [hstatus v hv,happroved]
        rfl
      | none =>
        rw [hcopy]
        exact hsettled.told
    · exact fun hne => absurd happroved hne
    · exact fun _ => ⟨hquiet,hquiet⟩

/-! ### The other commits -/

theorem gate_insertExternal {s : BridgeStore} (h : GateInv s) {id : String} {row : ExternalRow}
    (hgate : ∀ d, row.gateDecisionId = some d → d = gateId id ∧ (row.payload.get "explicitGate").truthy = true)
    (hh : (row.receipt.get "decisionStatus").hashable = true) {s' : BridgeStore}
    (hrun : insertExternal id row s = .ok ((),s')) : GateStep s s' ∧ GateInv s' := by
  have hpost : (insertExternal id row).Post s fun _ s' => s.external.get? id = none ∧
      s' = { s with external := s.external.set id row } := by
    unfold insertExternal
    rw [Tx.post_bind,Tx.post_read,Tx.post_bind,Tx.post_require]
    exact fun hfree => ⟨hfree.1,rfl⟩
  obtain ⟨hnone,rfl⟩ := hpost.of_ok hrun
  have hundecided : s.decisions.get? (gateId id) = none := by
    cases hdec : s.decisions.get? (gateId id) with
    | none => rfl
    | some dec =>
      obtain ⟨r,hr,-⟩ := h.anchored id dec hdec
      rw [hnone] at hr
      cases hr
  constructor
  · constructor
    case rows =>
      intro id' r hr
      rw [Dict.get?_set]
      split
      · next hi =>
        rw [hi,hnone] at hr
        cases hr
      · exact ⟨r,hr,rfl,rfl⟩
    case decisions => exact fun d dec hdec _ => ⟨dec,hdec,rfl⟩
  · constructor
    case named =>
      intro id' r d hr hd
      rw [Dict.get?_set] at hr
      split at hr
      · next hi =>
        cases hr
        rw [hi]
        exact hgate d hd
      · exact h.named id' r d hr hd
    case hashed =>
      intro id' r hr
      rw [Dict.get?_set] at hr
      split at hr
      · cases hr
        exact hh
      · exact h.hashed id' r hr
    case anchored =>
      intro id' dec hdec
      obtain ⟨r,hr,hg⟩ := h.anchored id' dec hdec
      rw [Dict.get?_set]
      split
      · next hi =>
        rw [hi,hnone] at hr
        cases hr
      · exact ⟨r,hr,hg⟩
    case agrees =>
      intro id' r hr d dec hd hdec
      rw [Dict.get?_set] at hr
      split at hr
      · cases hr
        rw [(hgate d hd).1] at hdec
        change s.decisions.get? (gateId id) = some dec at hdec
        rw [hundecided] at hdec
        cases hdec
      · exact h.agrees id' r hr d dec hd hdec

/-- A decision that was not settled before, and that the execution it is for tells of. -/
theorem gate_setDecision {s : BridgeStore} (h : GateInv s) {d : String} (dec : DecisionRow)
    (hnew : ∀ old, s.decisions.get? d = some old → old.status = .staged)
    (hfor : ∀ id, d = gateId id → ∃ row, s.external.get? id = some row ∧ row.gateDecisionId = some d ∧
      (dec.status ≠ .staged → RowSettled row dec.status)) :
    GateStep s { s with decisions := s.decisions.set d dec } ∧ GateInv { s with decisions := s.decisions.set d dec } := by
  constructor
  · constructor
    case rows => exact fun id row hrow => ⟨row,hrow,rfl,rfl⟩
    case decisions =>
      intro d' old hold hst
      rw [Dict.get?_set]
      split
      · next hd =>
        rw [hd] at hold
        exact absurd (hnew old hold) hst
      · exact ⟨old,hold,rfl⟩
  · constructor
    case named => exact h.named
    case hashed => exact h.hashed
    case anchored =>
      intro id dec' hdec
      rw [Dict.get?_set] at hdec
      split at hdec
      · next hd =>
        obtain ⟨row,hrow,hg,-⟩ := hfor id hd.symm
        exact ⟨row,hrow,hd ▸ hg⟩
      · exact h.anchored id dec' hdec
    case agrees =>
      intro id row hrow d' dec' hd' hdec hst
      rw [Dict.get?_set] at hdec
      split at hdec
      · next hd =>
        cases hdec
        obtain ⟨hname,-⟩ := h.named id row d' hrow hd'
        obtain ⟨r,hr,-,hsettled⟩ := hfor id (hd.symm.trans hname)
        obtain rfl : row = r := Option.some.inj (hrow.symm.trans hr)
        exact hsettled hst
      · exact h.agrees id row hrow d' dec' hd' hdec hst

/-- From a store in order the commit leads to one, and keeps what is settled. -/
def GateKept (s s' : BridgeStore) : Prop := GateInv s → GateStep s s' ∧ GateInv s'

instance : IsPreorder BridgeStore GateKept where
  refl _ h := ⟨.of_eq rfl rfl,h⟩
  trans _ _ _ h h' hs := by
    obtain ⟨hstep,hinv⟩ := h hs
    obtain ⟨hstep',hinv'⟩ := h' hinv
    exact ⟨hstep.trans hstep',hinv'⟩

theorem keeps_of_run {α : Type} {t : BridgeTx α}
    (h : ∀ s a s', GateInv s → t s = .ok (a,s') → GateStep s s' ∧ GateInv s') : Tx.Keeps GateKept t := by
  refine ⟨fun s => ?_⟩
  unfold Tx.Post
  cases ht : t s with
  | error e => trivial
  | ok r => exact fun hs => h s r.1 r.2 hs ht

instance keeps_workflow (id workflowId : String) :
    Tx.Keeps GateKept (updateExternal id fun row => { row with gateWorkflowId := some workflowId }) :=
  keeps_of_run fun s _ s' hs hrun => by
    refine gate_updateExternal hs ?_ hrun
    exact fun _ => ⟨rfl,rfl,rfl,rfl⟩

instance (request receipt : Payload) : Tx.Keeps GateKept (stageExternalDecision request receipt) := by
  refine ⟨fun s => ?_⟩
  unfold stageExternalDecision externalExecution decisionOf
  simp only [Tx.post_bind,Tx.post_require,Tx.post_read,Tx.post_orRaise]
  intro _ external hexternal hgate _ _
  generalize hd : ((request.get? "decisionId").map Json.text).getD "" = d at *
  cases hdec : s.decisions.get? d with
  | some existing =>
    dsimp only
    rw [Tx.post_bind,Tx.post_require]
    intro _
    rw [Tx.post_bind]
    exact ((keeps_workflow _ _).keeps s).mono fun _ s' h => h
  | none =>
    dsimp only
    rw [Tx.post_bind,Tx.post_write,Tx.post_bind]
    refine ((keeps_workflow _ _).keeps _).mono fun _ s' h hs => ?_
    obtain ⟨hstep,hinv⟩ := gate_setDecision hs { request, receipt }
      (fun old hold => by rw [hdec] at hold; cases hold) (fun id hid => by
        rw [hid,reconciliationOf_gateId] at hexternal
        exact ⟨external,hexternal,hgate,fun hst => absurd rfl hst⟩)
    obtain ⟨hstep',hinv'⟩ := h hinv
    exact ⟨hstep.trans hstep',hinv'⟩

theorem keeps_recordDecision {decisionId : String} (hid : isGateId decisionId = false) (request receipt : Payload) :
    Tx.Keeps GateKept (recordDecision decisionId request receipt) := by
  refine ⟨fun s => ?_⟩
  unfold recordDecision
  rw [Tx.post_write]
  cases hdec : s.decisions.get? decisionId with
  | some old => exact fun hs => ⟨.of_eq rfl rfl,hs⟩
  | none =>
    intro hs
    refine gate_setDecision hs _ (fun old hold => by rw [hdec] at hold; cases hold) fun id hd => ?_
    rw [hd,isGateId_gateId] at hid
    cases hid

theorem keeps_decideStaged {decisionId : String} (hid : isGateId decisionId = false) (v : Verdict) :
    Tx.Keeps GateKept (decideStaged decisionId v) := by
  refine ⟨fun s => ?_⟩
  unfold decideStaged decisionOf
  simp only [Tx.post_bind,Tx.post_require,Tx.post_read,Tx.post_orRaise,Tx.post_write]
  intro row hrow hstaged hs
  refine gate_setDecision hs _ (fun old hold => ?_) fun id hd => ?_
  · obtain rfl : row = old := Option.some.inj (hrow.symm.trans hold)
    exact hstaged
  · rw [hd,isGateId_gateId] at hid
    cases hid

/-! ### Settling -/

theorem value_notMem_refused : DecisionStatus.approved.value ∉ refused := by decide

theorem rowSettled_settle (row : ExternalRow) (decisionId : String) (st : DecisionStatus) :
    RowSettled { row with receipt := settledReceipt row.receipt decisionId st, status := st.value } st := by
  constructor
  · simp [settledReceipt,Payload.get]
  · exact fun _ => rfl
  · rintro rfl
    have hstatus : receiptStatus (settledReceipt row.receipt decisionId .approved) = DecisionStatus.approved.value := by
      simp [receiptStatus,settledReceipt,Json.text]
    exact ⟨value_notMem_refused,by rw [hstatus]; exact value_notMem_refused⟩

theorem hashable_settledReceipt (receipt : Payload) (decisionId : String) (st : DecisionStatus) :
    ((settledReceipt receipt decisionId st).get "decisionStatus").hashable = true := by
  simp [settledReceipt,Payload.get,Json.hashable]

instance (decisionId reconciliationId : String) (v : Verdict) (now : String) :
    Tx.Keeps GateKept (settleExternalDecision decisionId reconciliationId v now) := by
  refine ⟨fun s => ?_⟩
  unfold settleExternalDecision externalExecution decisionOf
  simp only [Tx.post_bind,Tx.post_require,Tx.post_read,Tx.post_orRaise,Tx.post_write,post_liftCheck]
  intro decision hdecision hstatus external hexternal hgate _ _ _ _ _ _ hs
  obtain ⟨row,hrow⟩ : ∃ row : ExternalRow, row = { external with
      receipt := settledReceipt external.receipt decisionId v.status
      status := v.status.value } := ⟨_,rfl⟩
  have hsettled : RowSettled row v.status := by
    rw [hrow]
    exact rowSettled_settle external decisionId v.status
  have hagrees : Agrees s row := by
    intro d dec hd hdec hst
    obtain rfl : decisionId = d := Option.some.inj (hgate.symm.trans (by rw [← hd,hrow]))
    obtain rfl : decision = dec := Option.some.inj (hdecision.symm.trans hdec)
    rw [hstatus.resolve_left hst]
    exact hsettled
  have hhash : (row.receipt.get "decisionStatus").hashable = true := by
    rw [hrow]
    exact hashable_settledReceipt _ _ _
  obtain ⟨hstep,hinv⟩ := gate_setExternal hs hexternal (by rw [hrow]) (by rw [hrow]) hhash hagrees
  rw [← hrow]
  split
  · next hstaged =>
    have hfor : ∀ id, decisionId = gateId id → ∃ r, (s.external.set reconciliationId row).get? id = some r ∧
        r.gateDecisionId = some decisionId ∧ ((decision.settle v).status ≠ .staged → RowSettled r (decision.settle v).status) := by
      intro id hid
      obtain ⟨hname,-⟩ := hs.named _ external decisionId hexternal hgate
      obtain rfl : reconciliationId = id := gateId_injective (hname.symm.trans hid)
      refine ⟨row,by rw [Dict.get?_set,if_pos rfl],?_,fun _ => hsettled⟩
      rw [hrow]
      exact hgate
    have hold : ∀ old, s.decisions.get? decisionId = some old → old.status = .staged := by
      intro old ho
      obtain rfl : decision = old := Option.some.inj (hdecision.symm.trans ho)
      exact hstaged
    obtain ⟨hstep',hinv'⟩ := gate_setDecision hinv _ hold hfor
    exact ⟨(hstep.trans hstep').trans (.of_eq rfl rfl),hinv'.of_eq rfl rfl⟩
  · exact ⟨hstep.trans (.of_eq rfl rfl),hinv.of_eq rfl rfl⟩

end Overseer.Psychlo
