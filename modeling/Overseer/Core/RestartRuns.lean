import Overseer.Core.Restart

/-! # Restarting a run

The store says what the registry says after every call, and holds a decision for every
claim. So the registry that is rebuilt from it is the same, and the two processes cannot be
told apart afterwards.
-/
namespace Overseer.Core.CoordState
open Overseer.Library ResourceRegistry

/-! ### The store mirrors the registry -/

structure Mirrored (st : CoordState) : Prop where
  resources : ∀ k, st.store.resources.get? k = st.registry.resources.get? k
  claims : ∀ k, st.store.claims.get? k = st.registry.claims.get? k
  decided : ∀ k c, st.store.claims.get? k = some c → ∃ d, st.store.decisions.get? k = some d

section Elsewhere
variable {reg reg' : ResourceRegistry} {resource : Resource} {claim : Claim} {actives : List Claim} {admitted : Prop}

theorem decides_elsewhere (h : Decides reg reg' resource claim actives admitted) (hfiled : reg.resources.Filed Resource.id)
    {k : String} (hk : k ≠ claim.resourceId) : reg'.resources.get? k = reg.resources.get? k := by
  by_cases ha : admitted ∧ claim.isExclusive = true
  · rw [h.pointed ha,Dict.get?_set,hfiled _ _ h.registered,if_neg hk]
  · rw [h.unpointed ha]

theorem releases_elsewhere {claimId : String} (h : Releases reg reg' claimId claim) (hfiled : reg.resources.Filed Resource.id)
    {k : String} (hk : k ≠ claim.resourceId) : reg'.resources.get? k = reg.resources.get? k := by
  by_cases hp : ∃ r, reg.resources.get? claim.resourceId = some r ∧ r.currentClaimId = some claimId
  · obtain ⟨r,hr,hp⟩ := hp
    rw [h.pointed r hr hp,Dict.get?_set,hfiled _ _ hr,if_neg hk]
  · rw [h.unpointed fun r hr hp' => hp ⟨r,hr,hp'⟩]

end Elsewhere

section Step
variable {st : CoordState}

theorem mirrored_resources (hst : Sound st) (hmirror : Mirrored st) {rop : RegistryOp} {r : Resource} {resourceId : String}
    (hr : (st.registry.apply rop).resources.get? resourceId = some r)
    (helse : ∀ k, k ≠ resourceId → (st.registry.apply rop).resources.get? k = st.registry.resources.get? k) (k : String) :
    (st.store.resources.set r.id r).get? k = (st.registry.apply rop).resources.get? k := by
  have hid : r.id = resourceId := (hst.coherent.apply rop).resources _ _ hr
  rw [Dict.get?_set,hid]
  split
  · next hk => rw [hk,hr]
  · next hk => rw [hmirror.resources,helse k hk]

/-- A claim that was decided is written with its decision and its resource. -/
theorem mirrored_decided (hst : Sound st) (hmirror : Mirrored st) {rop : RegistryOp} {record : ClaimRecord} {r : Resource}
    {log : List CoordOp} {events : Dict AuditEvent} (approval : Option ApprovalRequest)
    (hfiled : (st.registry.apply rop).claims = st.registry.claims.set record.claim.id record.claim)
    (hr : (st.registry.apply rop).resources.get? record.claim.resourceId = some r)
    (helse : ∀ k, k ≠ record.claim.resourceId → (st.registry.apply rop).resources.get? k = st.registry.resources.get? k) :
    Mirrored ⟨st.registry.apply rop,{ withApproval (decidedStore st.store record r) approval with auditEvents := events },log⟩ := by
  refine ⟨mirrored_resources hst hmirror hr helse,fun k => ?_,fun k c hc => ?_⟩
  · change (st.store.claims.set record.claim.id record.claim).get? k = _
    rw [hfiled,Dict.get?_set,Dict.get?_set,hmirror.claims]
  · change ∃ d, (st.store.decisions.set record.claim.id record.decision).get? k = some d
    change (st.store.claims.set record.claim.id record.claim).get? k = some c at hc
    rw [Dict.get?_set] at hc ⊢
    split
    · exact ⟨_,rfl⟩
    · next hk =>
      rw [if_neg hk] at hc
      exact hmirror.decided k c hc

theorem activate_record {reg reg' : ResourceRegistry} {claimId : String} {approvalId : Option String} {record : ClaimRecord}
    (hreg : reg.activateClaim claimId approvalId = .ok (reg',record)) :
    ∃ claim r status approval, reg.claims.get? claimId = some claim ∧ reg.resources.get? claim.resourceId = some r ∧
      record.claim = { claim with status := status, approvalId := approval } := by
  simp only [ResourceRegistry.activateClaim,getClaim,getResource] at hreg
  cases hclaim : reg.claims.get? claimId with
  | none => simp [hclaim,bind,Except.bind] at hreg
  | some claim =>
    simp only [hclaim,bind,Except.bind] at hreg
    cases hresource : reg.resources.get? claim.resourceId with
    | none => simp [hresource] at hreg
    | some resource =>
      simp only [hresource] at hreg
      split at hreg <;>
      · simp only [pure,Except.pure,Except.ok.injEq,Prod.mk.injEq] at hreg
        obtain ⟨-,rfl⟩ := hreg
        exact ⟨claim,resource,_,_,rfl,hresource,rfl⟩

theorem Mirrored.apply (hmirror : Mirrored st) (hst : Sound st) (op : CoordOp) : Mirrored (st.apply op) := by
  have heffect := apply_effect st op
  generalize st.apply op = st' at heffect
  cases heffect with
  | raised => exact hmirror
  | @register resource hnew =>
    have happly : st.registry.apply (.registerResource resource) =
        { st.registry with resources := st.registry.resources.set resource.id resource } := by
      simp only [ResourceRegistry.apply,ResourceRegistry.registerResource,hnew]
    refine ⟨fun k => ?_,fun k => ?_,hmirror.decided⟩
    · change (st.store.resources.set resource.id resource).get? k = _
      rw [happly,Dict.get?_set,Dict.get?_set,hmirror.resources]
    · rw [happly]
      exact hmirror.claims k
  | @request claim reg' record resource hreg hr =>
    obtain ⟨r₀,hr₀,-,hclaim,hfiled⟩ := requestClaim_ok hreg
    obtain rfl : st.registry.apply (.requestClaim claim) = reg' := by simp only [ResourceRegistry.apply,hreg]
    have hresource : record.claim.resourceId = claim.resourceId := by
      rw [hclaim]
      unfold claimWithStatus
      cases record.decision.outcome <;> rfl
    refine mirrored_decided hst hmirror _ hfiled hr fun k hk => ?_
    exact decides_elsewhere (requestClaim_decides hr₀) hst.coherent.resources (hresource ▸ hk)
  | @activate claimId approvalId reg' record resource hreg hr =>
    obtain ⟨claim,r₀,status,approval,hc,hr₀,hclaim⟩ := activate_record hreg
    have hid : claim.id = claimId := hst.coherent.excludes.filed _ _ hc
    have hfiled := activateClaim_filed hreg
    obtain rfl : st.registry.apply (.activateClaim claimId approvalId) = reg' := by simp only [ResourceRegistry.apply,hreg]
    have hrecord : record.claim.id = claimId ∧ record.claim.resourceId = claim.resourceId := by
      rw [hclaim]
      exact ⟨hid,rfl⟩
    refine mirrored_decided hst hmirror none (hrecord.1 ▸ hfiled) hr fun k hk => ?_
    exact decides_elsewhere (activateClaim_decides hc hid hr₀) hst.coherent.resources (hrecord.2 ▸ hk)
  | @release claimId reg' released resource hreg hr =>
    have hfiled := releaseClaim_filed hreg
    obtain ⟨claim,hc,hreleased⟩ : ∃ claim, st.registry.claims.get? claimId = some claim ∧ released = { claim with status := .released } := by
      simp only [ResourceRegistry.releaseClaim,getClaim] at hreg
      cases hc : st.registry.claims.get? claimId with
      | none => simp [hc,bind,Except.bind] at hreg
      | some claim =>
        simp only [hc,bind,Except.bind,pure,Except.pure,Except.ok.injEq,Prod.mk.injEq] at hreg
        exact ⟨claim,rfl,hreg.2.symm⟩
    have hid : claim.id = claimId := hst.coherent.excludes.filed _ _ hc
    obtain rfl : st.registry.apply (.releaseClaim claimId) = reg' := by simp only [ResourceRegistry.apply,hreg]
    have hids : released.id = claimId ∧ released.resourceId = claim.resourceId := by
      rw [hreleased]
      exact ⟨hid,rfl⟩
    refine ⟨mirrored_resources hst hmirror hr fun k hk => ?_,fun k => ?_,fun k c hc' => ?_⟩
    · exact releases_elsewhere (releaseClaim_releases hc) hst.coherent.resources (hids.2 ▸ hk)
    · change (st.store.claims.set released.id released).get? k = _
      rw [hfiled,hids.1,Dict.get?_set,Dict.get?_set,hmirror.claims]
    · change (st.store.claims.set released.id released).get? k = some c at hc'
      rw [Dict.get?_set] at hc'
      split at hc'
      · next hk =>
        rw [hk,hids.1]
        exact hmirror.decided claimId claim (by rw [hmirror.claims,hc])
      · exact hmirror.decided k c hc'
  | approve ha => exact ⟨hmirror.resources,hmirror.claims,hmirror.decided⟩

end Step

theorem Mirrored.run (ops : List CoordOp) : Mirrored (run ops) := by
  have hboth : Sound (CoordState.run ops) ∧ Mirrored (CoordState.run ops) :=
    foldl_invariant (I := fun st => Sound st ∧ Mirrored st) ⟨Sound.initial,⟨fun _ => rfl,fun _ => rfl,fun _ _ h => by simp at h⟩⟩
      (fun _ op h => ⟨h.1.apply op,h.2.apply h.1 op⟩) ops
  exact hboth.2

/-! ### Rebuilding -/

theorem mapM_of_some {α β : Type} {f : α → Option β} {g : α → β} (h : ∀ a, f a = some (g a)) (as : List α) :
    as.mapM f = some (as.map g) := by
  induction as with
  | nil => rfl
  | cons a as ih =>
    rw [List.mapM_cons,h,ih]
    rfl

theorem mem_rowsById {α : Type} {rows : Dict α} {v : α} : v ∈ rowsById rows ↔ ∃ k, rows.get? k = some v := by
  unfold rowsById
  rw [((List.perm_insertionSort _ _).map Prod.snd).mem_iff]
  exact rows.mem_values_iff v

theorem rowsById_nodup {α : Type} {rows : Dict α} {name : α → String} (h : rows.Filed name) : ((rowsById rows).map name).Nodup := by
  have hkeys : (rowsById rows).map name = (rows.entries.insertionSort fun a b => a.1.toList ≤ b.1.toList).map Prod.fst := by
    unfold rowsById
    rw [List.map_map]
    refine List.map_congr_left fun e he => ?_
    have hmem : e ∈ rows.entries := (List.perm_insertionSort _ _).mem_iff.mp he
    exact h e.1 e.2 ((rows.mem_entries_iff e.1 e.2).mp hmem)
  rw [hkeys]
  exact ((List.perm_insertionSort _ _).map Prod.fst).nodup_iff.mpr rows.nodup

theorem registerAll_run (resources : List Resource) (reg : ResourceRegistry) (hnodup : (resources.map Resource.id).Nodup)
    (hnew : ∀ r ∈ resources, reg.resources.get? r.id = none) :
    ∃ reg', registerAll reg resources = .ok reg' ∧ reg'.claims = reg.claims ∧
      (∀ r ∈ resources, reg'.resources.get? r.id = some r) ∧
      ∀ k, k ∉ resources.map Resource.id → reg'.resources.get? k = reg.resources.get? k := by
  induction resources generalizing reg with
  | nil => exact ⟨reg,rfl,rfl,fun _ h => (by cases h),fun _ _ => rfl⟩
  | cons r rest ih =>
    rw [List.map_cons,List.nodup_cons] at hnodup
    obtain ⟨reg',hrun,hclaims,hin,hout⟩ := ih { reg with resources := reg.resources.set r.id r } hnodup.2 (by
      intro r' hr'
      have hne : r'.id ≠ r.id := fun he => hnodup.1 (he ▸ List.mem_map_of_mem hr')
      change (reg.resources.set r.id r).get? r'.id = none
      rw [Dict.get?_set,if_neg hne]
      exact hnew r' (List.mem_cons_of_mem _ hr'))
    refine ⟨reg',?_,hclaims,fun r' hr' => ?_,fun k hk => ?_⟩
    · simp only [registerAll,ResourceRegistry.registerResource,hnew r List.mem_cons_self]
      exact hrun
    · rcases List.mem_cons.mp hr' with rfl | hr'
      · rw [hout _ hnodup.1]
        change (reg.resources.set r'.id r').get? r'.id = some r'
        rw [Dict.get?_set,if_pos rfl]
      · exact hin r' hr'
    · rw [List.map_cons,List.mem_cons,not_or] at hk
      rw [hout k hk.2]
      change (reg.resources.set r.id r).get? k = _
      rw [Dict.get?_set,if_neg hk.1]

theorem read_run {α : Type} (f : CoordStore → α) (s : CoordStore) :
    (atomically (Tx.read f) : CoordTx α) s = .ok (f s,s) :=
  rfl

theorem findDecision_run {s : CoordStore} {claimId : String} {d : ConflictDecision} (h : s.decisions.get? claimId = some d) :
    (findDecision claimId : CoordTx _) s = .ok (some d,s) := by
  unfold findDecision
  rw [Tx.bind_of_ok (read_run _ s),h]
  simp only [ConflictDecision.ofJsonable_members]
  rfl

theorem restoreAll_run (claims : List Claim) (reg : ResourceRegistry) (s : CoordStore) (hnodup : (claims.map Claim.id).Nodup)
    (hplaced : ∀ c ∈ claims, ∃ r, reg.resources.get? c.resourceId = some r)
    (hdecided : ∀ c ∈ claims, ∃ d, s.decisions.get? c.id = some d) :
    ∃ reg', (restoreAll reg claims : CoordTx _) s = .ok (reg',s) ∧ reg'.resources = reg.resources ∧
      (∀ c ∈ claims, reg'.claims.get? c.id = some c) ∧ ∀ k, k ∉ claims.map Claim.id → reg'.claims.get? k = reg.claims.get? k := by
  induction claims generalizing reg with
  | nil => exact ⟨reg,rfl,rfl,fun _ h => (by cases h),fun _ _ => rfl⟩
  | cons c rest ih =>
    rw [List.map_cons,List.nodup_cons] at hnodup
    obtain ⟨r,hr⟩ := hplaced c List.mem_cons_self
    obtain ⟨d,hd⟩ := hdecided c List.mem_cons_self
    obtain ⟨reg',hrun,hresources,hin,hout⟩ := ih { reg with
        claims := reg.claims.set c.id c, decisions := reg.decisions.set c.id d } hnodup.2
      (fun c' hc' => hplaced c' (List.mem_cons_of_mem _ hc')) (fun c' hc' => hdecided c' (List.mem_cons_of_mem _ hc'))
    refine ⟨reg',?_,hresources,fun c' hc' => ?_,fun k hk => ?_⟩
    · unfold restoreAll
      rw [Tx.bind_of_ok (findDecision_run hd)]
      simp only [ResourceRegistry.restoreClaim,hr]
      exact hrun
    · rcases List.mem_cons.mp hc' with rfl | hc'
      · rw [hout _ hnodup.1]
        change (reg.claims.set c'.id c').get? c'.id = some c'
        rw [Dict.get?_set,if_pos rfl]
      · exact hin c' hc'
    · rw [List.map_cons,List.mem_cons,not_or] at hk
      rw [hout k hk.2]
      change (reg.claims.set c.id c).get? k = _
      rw [Dict.get?_set,if_neg hk.1]

theorem listResources_run (s : CoordStore) :
    (listResources : CoordTx _) s = .ok ((rowsById s.resources).map Resource.restored,s) := by
  have hrows := mapM_of_some Resource.ofJsonable_members (rowsById s.resources)
  unfold listResources
  rw [Tx.bind_of_ok (read_run _ s),hrows]
  rfl

theorem listClaims_run (s : CoordStore) : (listClaims : CoordTx _) s = .ok (rowsById s.claims,s) := by
  have hrows := mapM_of_some Claim.ofJsonable_members (rowsById s.claims)
  rw [List.map_id'] at hrows
  unfold listClaims
  rw [Tx.bind_of_ok (read_run _ s),hrows]
  rfl

/-- The registry rebuilt from the store of a process is the same as the one it has. -/
theorem coordinatorFromStore_run {st : CoordState} (hst : Sound st) (hmirror : Mirrored st) :
    ∃ reg', (coordinatorFromStore : CoordTx _) st.store = .ok (reg',st.store) ∧ SameRegistry st.registry reg' := by
  have hresources : st.store.resources.Filed Resource.id := fun k r hr => hst.coherent.resources k r (hmirror.resources k ▸ hr)
  have hclaims : st.store.claims.Filed Claim.id := fun k c hc => hst.coherent.excludes.filed k c (hmirror.claims k ▸ hc)
  have hids : ((rowsById st.store.resources).map Resource.restored).map Resource.id = (rowsById st.store.resources).map Resource.id := by
    rw [List.map_map]
    rfl
  obtain ⟨reg₁,hregister,hempty,hin,hout⟩ := registerAll_run ((rowsById st.store.resources).map Resource.restored) .empty
    (hids ▸ rowsById_nodup hresources) (fun _ _ => rfl)
  have hrestored : ∀ k r, st.store.resources.get? k = some r → reg₁.resources.get? k = some r.restored := by
    intro k r hr
    have hid : r.restored.id = k := hresources k r hr
    rw [← hid]
    exact hin _ (List.mem_map_of_mem (mem_rowsById.mpr ⟨k,hr⟩))
  have habsent : ∀ k, st.store.resources.get? k = none → reg₁.resources.get? k = none := by
    intro k hr
    refine (hout k fun hmem => ?_).trans rfl
    rw [hids] at hmem
    obtain ⟨r,hrow,rfl⟩ := List.mem_map.mp hmem
    obtain ⟨k',hk'⟩ := mem_rowsById.mp hrow
    rw [hresources k' r hk',hk'] at hr
    cases hr
  obtain ⟨reg₂,hrestore,hkept,hfiled,hothers⟩ := restoreAll_run (rowsById st.store.claims) reg₁ st.store (rowsById_nodup hclaims) (by
      intro c hc
      obtain ⟨k,hk⟩ := mem_rowsById.mp hc
      obtain ⟨r,hr⟩ := hst.placed k c (hmirror.claims k ▸ hk)
      exact ⟨_,hrestored _ r (by rw [hmirror.resources,hr])⟩) (by
      intro c hc
      obtain ⟨k,hk⟩ := mem_rowsById.mp hc
      rw [hclaims k c hk]
      exact hmirror.decided k c hk)
  refine ⟨reg₂,?_,fun k => ?_,fun k => ?_⟩
  · unfold coordinatorFromStore
    rw [Tx.bind_of_ok (listResources_run _),hregister]
    change ((listClaims : CoordTx _) >>= fun claims => restoreAll reg₁ claims) st.store = _
    rw [Tx.bind_of_ok (listClaims_run _),hrestore]
  · rw [← hmirror.claims]
    cases hc : st.store.claims.get? k with
    | some c =>
      have hid : c.id = k := hclaims k c hc
      rw [← hid]
      exact hfiled c (mem_rowsById.mpr ⟨k,hc⟩)
    | none =>
      rw [hothers k fun hmem => ?_,hempty]
      · rfl
      · obtain ⟨c,hrow,rfl⟩ := List.mem_map.mp hmem
        obtain ⟨k',hk'⟩ := mem_rowsById.mp hrow
        rw [hclaims k' c hk',hk'] at hc
        cases hc
  · rw [← hmirror.resources,hkept]
    cases hr : st.store.resources.get? k with
    | none =>
      rw [habsent k hr]
      exact .none
    | some r =>
      rw [hrestored k r hr]
      exact .some (.restored r)

theorem Sound.of_same {st st' : CoordState} (hst : Sound st) (h : SameRegistry st.registry st'.registry) : Sound st' := by
  have hresource : ∀ {k r}, st.registry.resources.get? k = some r → ∃ r', st'.registry.resources.get? k = some r' ∧ r'.state = r.state := by
    intro k r hr
    rcases h.resource_cases k with ⟨hnone,-⟩ | ⟨r₀,r',hr₀,hr',hsame⟩
    · rw [hr] at hnone
      cases hnone
    · rw [hr] at hr₀
      cases hr₀
      exact ⟨r',hr',by rw [hsame.fields]⟩
  refine ⟨⟨fun k r' hr' => ?_,⟨fun k c hc => ?_,fun j k a b ha hb => ?_⟩,fun k c hc hactive => ?_,fun k c hc hactive => ?_⟩,fun k c hc => ?_⟩
  · rcases h.resource_cases k with ⟨-,hnone⟩ | ⟨r,r₁,hr,hr₁,hsame⟩
    · rw [hr'] at hnone
      cases hnone
    · rw [hr'] at hr₁
      cases hr₁
      rw [hsame.fields]
      exact hst.coherent.resources k r hr
  · exact hst.coherent.excludes.filed k c (h.claims k ▸ hc)
  · exact hst.coherent.excludes.compatible j k a b (h.claims j ▸ ha) (h.claims k ▸ hb)
  · obtain ⟨r,hr,hretired,hquarantined⟩ := hst.coherent.registered k c (h.claims k ▸ hc) hactive
    obtain ⟨r',hr',hstate⟩ := hresource hr
    exact ⟨r',hr',hstate ▸ hretired,hstate ▸ hquarantined⟩
  · exact hst.coherent.active k c (h.claims k ▸ hc) hactive
  · obtain ⟨r,hr⟩ := hst.placed k c (h.claims k ▸ hc)
    obtain ⟨r',hr',-⟩ := hresource hr
    exact ⟨r',hr'⟩

/-! ### Going on -/

/-- What a call of the coordinator returns. -/
def reply (st : CoordState) : RegistryOp → Except CoordError Reply
  | .registerResource resource => do
    let _ ← (Coordinator.registerResource st.registry resource : CoordTx _) st.store
    return .resource resource
  | .requestClaim claim => do
    let ((_,result),_) ← (Coordinator.requestClaim st.registry claim : CoordTx _) st.store
    return .record result.record
  | .activateClaim claimId approvalId => do
    let ((_,record),_) ← (Coordinator.activateClaim st.registry claimId approvalId : CoordTx _) st.store
    return .record record
  | .releaseClaim claimId => do
    let ((_,released),_) ← (Coordinator.releaseClaim st.registry claimId : CoordTx _) st.store
    return .claim released

/-- The call on the coordinator. -/
def ofRegistry : RegistryOp → CoordOp
  | .registerResource resource => .registerResource resource
  | .requestClaim claim => .requestClaim claim
  | .activateClaim claimId approvalId => .activateClaim claimId approvalId
  | .releaseClaim claimId => .releaseClaim claimId

/-- The process after further calls. -/
def goOn (st : CoordState) (later : List RegistryOp) : CoordState := later.foldl (fun s rop => s.apply (ofRegistry rop)) st

theorem apply_ofRegistry {st : CoordState} (hst : Sound st) (rop : RegistryOp) :
    (st.apply (ofRegistry rop)).registry = st.registry.apply rop := by
  rw [apply_registry hst.coherent hst.placed]
  cases rop <;> rfl

theorem placed_resource {st : CoordState} (hst : Sound st) (rop : RegistryOp) {reg' : ResourceRegistry} (happly : st.registry.apply rop = reg')
    {k : String} {c : Claim} (hfiled : reg'.claims = st.registry.claims.set k c) : ∃ r, reg'.getResource c.resourceId = .ok r := by
  have hplaced := placed_apply hst.coherent hst.placed rop
  rw [happly] at hplaced
  exact hplaced.resource (k := k) (by rw [hfiled,Dict.get?_set,if_pos rfl])

/-- The coordinator returns what the registry answers. -/
theorem reply_eq {st : CoordState} (hst : Sound st) (rop : RegistryOp) :
    st.reply rop = match st.registry.answer rop with
      | .ok (_,reply) => .ok reply
      | .error e => .error (.registry e) := by
  cases rop with
  | registerResource resource =>
    simp only [reply,answer,Coordinator.registerResource,ResourceRegistry.registerResource]
    cases st.registry.resources.get? resource.id <;> rfl
  | requestClaim claim =>
    cases hreg : st.registry.requestClaim claim with
    | error e =>
      simp only [reply,answer,Coordinator.requestClaim,hreg]
      rfl
    | ok p =>
      obtain ⟨reg',record⟩ := p
      obtain ⟨_,-,-,-,hfiled⟩ := requestClaim_ok hreg
      obtain ⟨r,hr⟩ := placed_resource hst (.requestClaim claim) (by simp only [ResourceRegistry.apply,hreg]) hfiled
      simp only [reply,answer,requestClaim_eq hreg,Tx.bind_of_ok (persistResult_run hr),hreg]
      rfl
  | activateClaim claimId approvalId =>
    cases hreg : st.registry.activateClaim claimId approvalId with
    | error e =>
      simp only [reply,answer,Coordinator.activateClaim,hreg]
      rfl
    | ok p =>
      obtain ⟨reg',record⟩ := p
      obtain ⟨r,hr⟩ := placed_resource hst (.activateClaim claimId approvalId) (by simp only [ResourceRegistry.apply,hreg])
        (activateClaim_filed hreg)
      simp only [reply,answer,activateClaim_eq hreg,persistRecord_run hr,hreg]
      rfl
  | releaseClaim claimId =>
    cases hreg : st.registry.releaseClaim claimId with
    | error e =>
      simp only [reply,answer,Coordinator.releaseClaim,hreg]
      rfl
    | ok p =>
      obtain ⟨reg',released⟩ := p
      obtain ⟨r,hr⟩ := placed_resource hst (.releaseClaim claimId) (by simp only [ResourceRegistry.apply,hreg]) (releaseClaim_filed hreg)
      simp only [reply,answer,releaseClaim_eq hreg,persistRelease_run hr,hreg]
      rfl

/-- The same error or the same reply. -/
inductive SameResult : Except CoordError Reply → Except CoordError Reply → Prop where
  | raised (e : CoordError) : SameResult (.error e) (.error e)
  | returned {reply reply' : Reply} (h : SameReply reply reply') : SameResult (.ok reply) (.ok reply')

theorem reply_same {st st' : CoordState} (hst : Sound st) (h : SameRegistry st.registry st'.registry) (rop : RegistryOp) :
    SameResult (st.reply rop) (st'.reply rop) := by
  rw [reply_eq hst,reply_eq (hst.of_same h)]
  have hanswer := answer_same h rop
  generalize st.registry.answer rop = a at hanswer
  generalize st'.registry.answer rop = a' at hanswer
  cases hanswer with
  | raised e => exact .raised _
  | returned hreg hreply => exact .returned hreply

theorem same_goes_on {st st' : CoordState} (hst : Sound st) (h : SameRegistry st.registry st'.registry) (later : List RegistryOp) :
    Sound (st.goOn later) ∧ SameRegistry (st.goOn later).registry (st'.goOn later).registry := by
  induction later generalizing st st' with
  | nil => exact ⟨hst,h⟩
  | cons rop later ih =>
    refine ih (hst.apply _) ?_
    rw [apply_ofRegistry hst,apply_ofRegistry (hst.of_same h)]
    exact h.apply rop

/-- A process restarted from the store after any run has the same resources and claims, and
answers every further sequence of calls as the one that goes on. -/
theorem restart_equivalent (ops : List RegistryOp) :
    let st := run (ops.map ofRegistry)
    ∃ reg', (coordinatorFromStore : CoordTx _) st.store = .ok (reg',st.store) ∧ SameRegistry st.registry reg' ∧
      ∀ later : List RegistryOp, let restarted : CoordState := ⟨reg',st.store,st.log⟩
        SameRegistry (st.goOn later).registry (restarted.goOn later).registry ∧
          ∀ rop, SameResult ((st.goOn later).reply rop) ((restarted.goOn later).reply rop) := by
  intro st
  have hst : Sound st := Sound.run _
  obtain ⟨reg',hload,hsame⟩ := coordinatorFromStore_run hst (Mirrored.run _)
  refine ⟨reg',hload,hsame,fun later => ?_⟩
  have hrestarted : SameRegistry st.registry (⟨reg',st.store,st.log⟩ : CoordState).registry := hsame
  obtain ⟨hsound,hlater⟩ := same_goes_on hst hrestarted later
  exact ⟨hlater,fun rop => reply_same hsound hlater rop⟩

end Overseer.Core.CoordState
